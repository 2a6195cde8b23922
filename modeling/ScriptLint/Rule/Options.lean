import ScriptLint.Json.Basic
import ScriptLint.Number.Double

/-!
# Options of rules

A rule takes a list of options. A shape describes which JSON values may stand at a position; objects
and arrays have shapes for what is inside them. `fault?` finds the first place of a value that its
shape forbids: a path into the value and what is wrong there.
-/

namespace ScriptLint

inductive OptionShape where
  | any
  | boolean
  | string
  /-- A whole number of 64 bits between two bounds. -/
  | integer (minimum maximum : Option Int)
  /-- A number between two bounds, which need not be finite. -/
  | number (minimum maximum : Option Double)
  /-- One of some values. -/
  | oneOf (values : List Json)
  | array (items : OptionShape) (minimum maximum : Option Nat)
  /-- An object; of equal property names the first one counts. -/
  | object (properties : List (String × OptionShape)) (required : List String) (additional : Bool)
  /-- What one of several shapes allows. -/
  | anyOf (alternatives : List OptionShape)
  deriving Inhabited

namespace OptionShape

def words (values : List String) : OptionShape := .oneOf (values.map .str)

/-- A property added to the shape of an object, in the place of an earlier one of that name. -/
def setProperty (name : String) (shape : OptionShape) :
    List (String × OptionShape) → List (String × OptionShape)
  | [] => [(name, shape)]
  | (n, s) :: rest => if n = name then (n, shape) :: rest else (n, s) :: setProperty name shape rest

def withProperty (name : String) (shape : OptionShape) : OptionShape → OptionShape
  | .object properties required additional =>
    .object (setProperty name shape properties) required additional
  | other => other

def withRequired (name : String) : OptionShape → OptionShape
  | .object properties required additional => .object properties (required ++ [name]) additional
  | other => other

def withAdditional : OptionShape → OptionShape
  | .object properties required _ => .object properties required true
  | other => other

mutual
/-- The shape in words. -/
def describe : OptionShape → String
  | .any => "any value"
  | .boolean => "a boolean"
  | .string => "a string"
  | .integer .. => "an integer"
  | .number .. => "a number"
  | .oneOf values => "one of " ++ ", ".intercalate (values.map Json.render)
  | .array .. => "an array"
  | .object .. => "an object"
  | .anyOf alternatives => " or ".intercalate (describeAll alternatives)

def describeAll : List OptionShape → List String
  | [] => []
  | shape :: shapes => describe shape :: describeAll shapes
end

end OptionShape

/-- A step into a value. -/
inductive PathStep where
  | key (name : String)
  | item (index : Nat)
  deriving DecidableEq, Repr

def PathStep.render : PathStep → String
  | key name => "." ++ name
  | item index => "[" ++ toString index ++ "]"

/-- What a shape objects to. -/
inductive OptionProblem where
  | unexpected (wanted : OptionShape) (found : Json)
  | integerBelow (minimum found : Int)
  | integerAbove (maximum found : Int)
  | numberBelow (minimum : Double) (found : Binary64)
  | numberAbove (maximum : Double) (found : Binary64)
  | tooFewItems (minimum : Nat)
  | tooManyItems (maximum : Nat)
  | missing
  | unknownProperty
  | tooManyOptions (allowed found : Nat)

namespace OptionProblem

def message : OptionProblem → String
  | unexpected wanted found => "expected " ++ wanted.describe ++ ", got " ++ found.render
  | integerBelow minimum found => "must be >= " ++ toString minimum ++ ", got " ++ toString found
  | integerAbove maximum found => "must be <= " ++ toString maximum ++ ", got " ++ toString found
  | numberBelow minimum found =>
    "must be >= " ++ minimum.render Binary64.plain ++ ", got " ++ found.render Binary64.plain
  | numberAbove maximum found =>
    "must be <= " ++ maximum.render Binary64.plain ++ ", got " ++ found.render Binary64.plain
  | tooFewItems minimum => "must have at least " ++ toString minimum ++ " items"
  | tooManyItems maximum => "must have at most " ++ toString maximum ++ " items"
  | missing => "is required"
  | unknownProperty => "unknown property"
  | tooManyOptions allowed found =>
    "expected at most " ++ toString allowed ++ " option" ++ (if allowed = 1 then "" else "s") ++
      ", got " ++ toString found

end OptionProblem

/-- A problem and where it lies, counted from the list of options. -/
structure OptionFault where
  path : List PathStep
  problem : OptionProblem

namespace OptionFault

def here (problem : OptionProblem) : OptionFault := ⟨[], problem⟩

/-- A fault inside a value, seen from outside. -/
def under (step : PathStep) (fault : OptionFault) : OptionFault :=
  ⟨step :: fault.path, fault.problem⟩

def pathText (fault : OptionFault) : String := String.join (fault.path.map PathStep.render)

def message (fault : OptionFault) : String := fault.problem.message

/-- The path with the message. -/
def render (fault : OptionFault) : String := fault.pathText ++ ": " ++ fault.message

end OptionFault

namespace OptionShape

/-- The first fault among items that are numbered from `index` on. -/
def faultInItems (check : Json → Option OptionFault) (index : Nat) : List Json → Option OptionFault
  | [] => none
  | value :: rest =>
    match check value with
    | some fault => some (fault.under (.item index))
    | none => faultInItems check (index + 1) rest

/-- The first fault among the members of an object. -/
def faultInMembers (check : String → Json → Option OptionFault) :
    List (String × Json) → Option OptionFault
  | [] => none
  | (key, value) :: rest =>
    match check key value with
    | some fault => some (fault.under (.key key))
    | none => faultInMembers check rest

/-- The first required property that is not there. -/
def missing? (required : List String) (members : List (String × Json)) : Option OptionFault :=
  (required.find? fun name => (members.lookup name).isNone).map fun name =>
    (OptionFault.here .missing).under (.key name)

def integerFault? (minimum maximum : Option Int) (n : Int) : Option OptionProblem :=
  match minimum.filter (n < ·), maximum.filter (· < n) with
  | some low, _ => some (.integerBelow low n)
  | none, some high => some (.integerAbove high n)
  | none, none => none

def numberFault? (minimum maximum : Option Double) (x : Binary64) : Option OptionProblem :=
  match minimum.filter (Double.lt x), maximum.filter (·.lt x) with
  | some low, _ => some (.numberBelow low x)
  | none, some high => some (.numberAbove high x)
  | none, none => none

def countFault? (minimum maximum : Option Nat) (count : Nat) : Option OptionProblem :=
  match minimum.filter (count < ·), maximum.filter (· < count) with
  | some low, _ => some (.tooFewItems low)
  | none, some high => some (.tooManyItems high)
  | none, none => none

mutual
/-- The first place of a value that the shape forbids. -/
def fault? (shape : OptionShape) (value : Json) : Option OptionFault :=
  let unexpected := some (OptionFault.here (.unexpected shape value))
  match shape with
  | .any => none
  | .boolean => if value.asBool?.isSome then none else unexpected
  | .string => if value.asString?.isSome then none else unexpected
  | .integer minimum maximum =>
    match value.asInt64? with
    | some n => (integerFault? minimum maximum n).map .here
    | none => unexpected
  | .number minimum maximum =>
    match value.asDouble? with
    | some x => (numberFault? minimum maximum x).map .here
    | none => unexpected
  | .oneOf values => if values.any fun v => v.same value then none else unexpected
  | .array items minimum maximum =>
    match value with
    | .arr values =>
      match countFault? minimum maximum values.length with
      | some problem => some (.here problem)
      | none => faultInItems (fault? items) 0 values
    | _ => unexpected
  | .object properties required additional =>
    match value with
    | .obj members =>
      match missing? required members with
      | some fault => some fault
      | none => faultInMembers (propertyFault? properties additional) members
    | _ => unexpected
  | .anyOf alternatives => if someAllows alternatives value then none else unexpected

/-- The first fault of a property by the shape of its name. -/
def propertyFault? (properties : List (String × OptionShape)) (additional : Bool) (key : String)
    (value : Json) : Option OptionFault :=
  match properties with
  | [] => if additional then none else some (.here .unknownProperty)
  | (name, shape) :: rest =>
    if name = key then fault? shape value else propertyFault? rest additional key value

/-- Whether one of some shapes allows a value. -/
def someAllows (alternatives : List OptionShape) (value : Json) : Bool :=
  match alternatives with
  | [] => false
  | shape :: rest => (fault? shape value).isNone || someAllows rest value
end

/-- The first fault of a list of options; options at the end may be left out. -/
def listFault? (shapes : List OptionShape) (options : List Json) : Option OptionFault :=
  if shapes.length < options.length then
    some ⟨[.item shapes.length], .tooManyOptions shapes.length options.length⟩
  else (shapes.zip options).zipIdx.findSome? fun ((shape, value), index) =>
    (fault? shape value).map (·.under (.item index))

end OptionShape

end ScriptLint
