import ScriptLint.Diagnostic.Record

/-!
# Listings of diagnostics

One line for each diagnostic, a JSON document of all of them, counts, and a summary in one line.
-/

namespace ScriptLint

/-- The file and the place in it. -/
def Location.listing (l : Location) : String :=
  let file := if l.file.raw.isEmpty then "<input>" else l.file.toString
  file ++ ":" ++ toString l.start.line ++ ":" ++ toString l.start.column

namespace Diagnostic

/-- Place, severity, message and rule, with a remark on the edit. -/
def listing (d : Diagnostic) : String :=
  let remark := match d.status.label? with
    | some label => " [" ++ label ++ "]"
    | none => ""
  d.location.listing ++ " " ++ d.severity.name ++ " " ++ d.message ++ " " ++ d.rule ++ remark

/-- The lines of all diagnostics. -/
def listAll (diagnostics : List Diagnostic) : String :=
  String.join (diagnostics.map fun d => d.listing ++ "\n")

/-- The JSON document of all diagnostics. -/
def document (diagnostics : List Diagnostic) : String :=
  (Json.arr (diagnostics.map toJson)).pretty 0

def countOf (severity : Severity) (diagnostics : List Diagnostic) : Nat :=
  diagnostics.countP fun d => d.severity == severity

/-- The severities that occur, with how often they do. -/
def counts (diagnostics : List Diagnostic) : List (Severity × Nat) :=
  (Severity.all.map fun s => (s, countOf s diagnostics)).filter fun c => c.2 ≠ 0

/-- The diagnostics of each rule, the rules in the order of their first diagnostic. -/
def byRule (diagnostics : List Diagnostic) : List (String × List Diagnostic) :=
  let rules := (diagnostics.map rule).eraseDups
  rules.map fun r => (r, diagnostics.filter fun d => d.rule == r)

def appliedCount (diagnostics : List Diagnostic) : Nat :=
  diagnostics.countP fun d => d.status == .applied

/-- A number with a noun, which gets an `s` unless the number is 1. -/
def counted (n : Nat) (noun : String) : String :=
  toString n ++ " " ++ noun ++ (if n = 1 then "" else "s")

/-- How many diagnostics there are of each severity, the most important first. -/
def summary (diagnostics : List Diagnostic) : String :=
  if diagnostics.isEmpty then "No issues found"
  else
    let nouns : List (Severity × String) :=
      [(.error, "error"), (.warning, "warning"), (.info, "info message"), (.hint, "hint")]
    let parts := nouns.filterMap fun (severity, noun) =>
      let n := countOf severity diagnostics
      if n = 0 then none else some (counted n noun)
    let fixed := appliedCount diagnostics
    ", ".intercalate parts ++ (if fixed = 0 then "" else " (" ++ toString fixed ++ " fixed)")

end Diagnostic

end ScriptLint
