import ScriptLint.Diagnostic.Record
import ScriptLint.Config.RuleTable

/-!
# Configurations

A configuration says which rules are on, how severe their problems are and with which options they
run, and holds settings that all rules see. Every part may be left out.

`merge` fills what one configuration leaves out from another one: the parts of `linter` one by one,
rules by their ids, and settings inside objects. What belongs to the file alone is not merged.
-/

namespace ScriptLint

structure LinterConfig where
  enabled : Option Bool
  fix : Option Bool
  maxPasses : Option Nat
  deriving DecidableEq, Repr

namespace LinterConfig

def empty : LinterConfig := ⟨none, none, none⟩

def merge (a b : LinterConfig) : LinterConfig :=
  ⟨a.enabled.or b.enabled, a.fix.or b.fix, a.maxPasses.or b.maxPasses⟩

def toJson (l : LinterConfig) : Json :=
  .obj [("enabled", .ofOption .bool l.enabled), ("fix", .ofOption .bool l.fix),
    ("maxPasses", .ofOption .ofNat l.maxPasses)]

end LinterConfig

structure Config where
  /-- Where editors find the schema of the file. -/
  schema : Option String
  /-- Whether the search for further files ends here. -/
  root : Option Bool
  /-- The files to fill up from. -/
  parents : Option (List String)
  linter : Option LinterConfig
  rules : Option RuleTable
  settings : Option Json

namespace Config

def empty : Config := ⟨none, none, none, none, none, none⟩

mutual
/-- Two values as one: objects are filled up key by key, and every other value stays as it is. -/
def mergeValues (a b : Json) : Json :=
  match a, b with
  | .obj as, .obj bs => .obj (mergeMembers as bs ++ bs.filter fun m => (as.lookup m.1).isNone)
  | a, _ => a

/-- The members of an object, each filled up from the member of its key. -/
def mergeMembers (as bs : List (String × Json)) : List (String × Json) :=
  match as with
  | [] => []
  | (key, value) :: rest =>
    (key, (match bs.lookup key with
      | some other => mergeValues value other
      | none => value)) :: mergeMembers rest bs
end

/-- Two optional parts as one. -/
def mergePart (join : α → α → α) : Option α → Option α → Option α
  | some a, some b => some (join a b)
  | some a, none => some a
  | none, b => b

/-- The first configuration filled up from the second one. -/
def merge (a b : Config) : Config :=
  { a with
    linter := mergePart LinterConfig.merge a.linter b.linter
    rules := mergePart RuleTable.merge a.rules b.rules
    settings := mergePart mergeValues a.settings b.settings }

def linterOrEmpty (c : Config) : LinterConfig := c.linter.getD .empty

def settingsOrNull (c : Config) : Json := c.settings.getD .null

def toJson (c : Config) : Json :=
  let schema := match c.schema with
    | some s => [("$schema", Json.str s)]
    | none => []
  .obj (schema ++ [("root", .ofOption .bool c.root),
    ("extends", .ofOption (fun paths => .arr (paths.map .str)) c.parents),
    ("linter", .ofOption LinterConfig.toJson c.linter),
    ("rules", .ofOption RuleTable.toJson c.rules), ("settings", c.settingsOrNull)])

end Config

end ScriptLint
