import ScriptLint.Config

/-!
# Configurations out of documents

A configuration can be written in several notations. A reader of a notation yields a `Wire` value,
which keeps repeated keys and leaves open what its numbers are good for. `Config.ofWire?` reads a
configuration from it, or refuses it.
-/

namespace ScriptLint

/-- What a number can be read as: whether it can be read at all, its JSON value, and a count. -/
structure NumberReading where
  readable : Bool
  value : Option Json
  count : Option Nat

inductive Wire where
  | null
  | bool (value : Bool)
  | number (reading : NumberReading)
  | str (value : String)
  | arr (items : List Wire)
  | obj (members : List (String × Wire))
  deriving Inhabited

namespace Wire

mutual
/-- Whether all numbers can be read. -/
def readable : Wire → Bool
  | .number reading => reading.readable
  | .arr items => readableItems items
  | .obj members => readableMembers members
  | _ => true

def readableItems : List Wire → Bool
  | [] => true
  | item :: items => readable item && readableItems items

def readableMembers : List (String × Wire) → Bool
  | [] => true
  | (_, value) :: members => readable value && readableMembers members
end

mutual
/-- The JSON value, if all numbers have one; a repeated key keeps its first place and its last
value. -/
def toJson? : Wire → Option Json
  | .null => some .null
  | .bool value => some (.bool value)
  | .number reading => reading.value
  | .str value => some (.str value)
  | .arr items => (itemsToJson? items).map .arr
  | .obj members => (membersToJson? members).map fun ms => .obj (Json.collectMembers ms)

def itemsToJson? : List Wire → Option (List Json)
  | [] => some []
  | item :: items => (toJson? item).bind fun j => (itemsToJson? items).map (j :: ·)

def membersToJson? : List (String × Wire) → Option (List (String × Json))
  | [] => some []
  | (key, value) :: members =>
    (toJson? value).bind fun j => (membersToJson? members).map ((key, j) :: ·)
end

def countOf : Int → Option Nat
  | .ofNat n => some n
  | .negSucc _ => none

mutual
/-- A JSON value: only a whole number that is not negative counts. -/
def ofJson : Json → Wire
  | .null => .null
  | .bool value => .bool value
  | .int n => .number ⟨true, some (.int n), countOf n⟩
  | .double x => .number ⟨true, some (.double x), none⟩
  | .str value => .str value
  | .arr items => .arr (itemsOfJson items)
  | .obj members => .obj (membersOfJson members)

def itemsOfJson : List Json → List Wire
  | [] => []
  | item :: items => ofJson item :: itemsOfJson items

def membersOfJson : List (String × Json) → List (String × Wire)
  | [] => []
  | (key, value) :: members => (key, ofJson value) :: membersOfJson members
end

/-- Nothing for null; anything else has to be read. -/
def optional? (read : Wire → Option α) : Wire → Option (Option α)
  | .null => some none
  | value => (read value).map some

def asBool? : Wire → Option Bool
  | .bool value => some value
  | _ => none

def asString? : Wire → Option String
  | .str value => some value
  | _ => none

def asCount? : Wire → Option Nat
  | .number reading => reading.count
  | _ => none

def asStrings? : Wire → Option (List String)
  | .arr items => items.mapM asString?
  | _ => none

/-- The value of a field of an object, null if it is missing; a field must not be given twice. -/
def field? (members : List (String × Wire)) (name : String) : Option Wire :=
  match members.filter fun m => m.1 == name with
  | [] => some .null
  | [(_, value)] => some value
  | _ => none

/-- The values of the fields of a record in the order of their names. Fields of other names are
passed over if they can be read. A record may also be the array of its values; if `exact`, that array
has no further items. -/
def record? (exact : Bool) (names : List String) : Wire → Option (List Wire)
  | .obj members =>
    if members.all fun m => names.contains m.1 || readable m.2 then
      names.mapM (field? members)
    else none
  | .arr items =>
    if items.length = names.length ∨ (¬ exact ∧ names.length < items.length) then
      some (items.take names.length)
    else none
  | _ => none

end Wire

namespace LinterConfig

def ofWire? (exact : Bool) (value : Wire) : Option LinterConfig := do
  match ← value.record? exact ["enabled", "fix", "maxPasses"] with
  | [enabled, fix, maxPasses] =>
    some ⟨← enabled.optional? Wire.asBool?, ← fix.optional? Wire.asBool?,
      ← maxPasses.optional? Wire.asCount?⟩
  | _ => none

end LinterConfig

namespace RuleSetting

/-- A level by its name, which may also be the only key of an object, with null under it. -/
def level? : Wire → Option RuleLevel
  | .str name => RuleLevel.ofName? name
  | .obj [(name, .null)] => RuleLevel.ofName? name
  | _ => none

/-- A whole number up to 255. -/
def number? : Wire → Option Nat
  | .number ⟨_, some (.int n), _⟩ => if 0 ≤ n ∧ n < 256 then some n.toNat else none
  | _ => none

def ofWire? (value : Wire) : Option RuleSetting :=
  match level? value, number? value, value with
  | some level, _, _ => some (.named level)
  | none, some number, _ => some (.numbered number)
  | none, none, .arr items => (Wire.itemsToJson? items).map .list
  | none, none, _ => none

end RuleSetting

namespace RuleTable

def ofWire? : Wire → Option RuleTable
  | .obj members =>
    (members.mapM fun m => (RuleSetting.ofWire? m.2).map (m.1, ·)).map RuleTable.ofList
  | _ => none

end RuleTable

namespace Config

/-- Reads a configuration; `exact` says that a record written as an array has no further items. -/
def ofWire? (exact : Bool) (value : Wire) : Option Config := do
  match ← value.record? exact ["$schema", "root", "extends", "linter", "rules", "settings"] with
  | [schema, root, parents, linter, rules, settings] =>
    some ⟨← schema.optional? Wire.asString?, ← root.optional? Wire.asBool?,
      ← parents.optional? Wire.asStrings?, ← linter.optional? (LinterConfig.ofWire? exact),
      ← rules.optional? RuleTable.ofWire?, ← settings.optional? Wire.toJson?⟩
  | _ => none

/-- A configuration given as a JSON value. -/
def ofJson? (value : Json) : Option Config := ofWire? true (Wire.ofJson value)

end Config

end ScriptLint
