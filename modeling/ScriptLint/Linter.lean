import ScriptLint.Config
import ScriptLint.Diagnostic.Listing
import ScriptLint.Diff.Unified
import ScriptLint.Dispatch
import ScriptLint.Splice
import ScriptLint.Syntax.Parse

/-!
# Linting a text

`verify` runs the rules once. `verifyAndFix` repeats passes: it parses the text, runs the rules and
makes the edits of their diagnostics, until a pass accepts no edit, the text no longer parses, a rule
fails, or the bound on passes is reached.

The diagnostics of an outcome are those of the last complete pass. Problems that earlier passes fixed
move to `fixed` as soon as a later pass has run.
-/

namespace ScriptLint

structure LintOptions where
  maxPasses : Nat
  /-- What all rules are told. -/
  settings : Json

namespace LintOptions

def default : LintOptions := ⟨10, .null⟩

def withMaxPasses (o : LintOptions) (maxPasses : Nat) : LintOptions :=
  { o with maxPasses := max maxPasses 1 }

def ofConfig (c : Config) : LintOptions :=
  ⟨max (c.linterOrEmpty.maxPasses.getD default.maxPasses) 1, c.settingsOrNull⟩

end LintOptions

structure Outcome where
  input : Text
  output : Text
  /-- The diagnostics of the last complete pass. -/
  diagnostics : List Diagnostic
  /-- Diagnostics whose edits were made by earlier passes. -/
  fixed : List Diagnostic
  /-- The number of times the rules ran. -/
  passes : Nat
  /-- The number of edits made in all passes. -/
  applied : Nat
  skipped : List SkippedRule
  /-- The failure of a rule that ended the passes. -/
  error : Option LintError
  notes : List String

namespace Outcome

def start (input : Text) : Outcome := ⟨input, input, [], [], 0, 0, [], none, []⟩

def changed (o : Outcome) : Bool := o.input != o.output

def diff (o : Outcome) (label : String) : Text := Diff.unified o.input o.output label

/-- What was fixed on the way, and then what the last pass found. -/
def allDiagnostics (o : Outcome) : List Diagnostic := o.fixed ++ o.diagnostics

def hasUnfixedErrors (o : Outcome) : Bool := o.diagnostics.any fun d => d.isError && d.isUnfixed

end Outcome

/-- The rule and message id of the diagnostic of a text that does not parse. -/
def parseErrorId : String := "parse-error"

def Outcome.hasParseError (o : Outcome) : Bool := o.diagnostics.any fun d => d.rule == parseErrorId

/-- The diagnostic of a text that does not parse. -/
def SyntaxError.diagnostic (e : SyntaxError) (text : Text) : Diagnostic :=
  let lines := LineTable.ofText text
  let stop := lines.position text e.span.stop
  .new parseErrorId parseErrorId .error e.message
    ⟨⟨[]⟩, lines.position text e.span.start, some stop.line, some stop.column, e.span.start,
      e.span.length⟩

/-- A parser and options. -/
structure Linter where
  parse : Text → Parse
  options : LintOptions

namespace Linter

def new (options : LintOptions) : Linter := ⟨ScriptLint.parse, options⟩

/-- Runs the rules over a text with its tree. -/
def dispatch (l : Linter) (rules : List ConfiguredRule) (text : Text) (tree : Tree) : Dispatch :=
  Dispatch.run rules l.options.settings ⟨text, tree⟩

/-- An outcome with a run of the rules added; what the previous pass fixed is kept. -/
def record (o : Outcome) (d : Dispatch) : Outcome :=
  { o with
    diagnostics := d.diagnostics
    fixed := o.fixed ++ o.diagnostics.filter fun d => d.status == .applied
    passes := o.passes + 1
    skipped := d.skipped
    error := d.error
    notes := o.notes ++ d.notes }

/-- An outcome that ends with a text that does not parse. -/
def stopAt (o : Outcome) (e : SyntaxError) : Outcome :=
  { o with diagnostics := o.diagnostics ++ [e.diagnostic o.output] }

/-- Runs the rules once and makes no edit. -/
def verify (l : Linter) (rules : List ConfiguredRule) (input : Text) : Outcome :=
  let parsed := l.parse input
  match parsed.errors with
  | e :: _ => stopAt (.start input) e
  | [] => record (.start input) (l.dispatch rules input parsed.tree)

/-- The passes that are left, from an outcome on; its output is the text of the next pass. -/
def passes (l : Linter) (rules : List ConfiguredRule) : (left : Nat) → Outcome → Outcome
  | 0, o => o
  | left + 1, o =>
    let parsed := l.parse o.output
    match parsed.errors with
    | e :: _ => stopAt o e
    | [] =>
      let o := record o (l.dispatch rules o.output parsed.tree)
      match o.error with
      | some _ => o
      | none =>
        let s := Splice.run o.output o.diagnostics
        if s.applied = 0 then { o with diagnostics := s.diagnostics }
        else
          l.passes rules left
            { o with
              diagnostics := s.diagnostics
              applied := o.applied + s.applied
              output := s.output }

def verifyAndFix (l : Linter) (rules : List ConfiguredRule) (input : Text) : Outcome :=
  l.passes rules l.options.maxPasses (.start input)

end Linter

end ScriptLint
