import ScriptLint.Number.Shortest
import ScriptLint.Text.Basic

/-!
# JSON values

Whole numbers and doubles are different values: `1` and `1.0` are not equal. The members of an
object keep the order in which they were written; equality does not look at it.
-/

namespace ScriptLint

inductive Json where
  | null
  | bool (value : Bool)
  | int (value : Int)
  | double (value : Binary64)
  | str (value : String)
  | arr (items : List Json)
  | obj (members : List (String × Json))
  deriving Inhabited

namespace Json

/-- The value under a key of an object. -/
def get? (key : String) : Json → Option Json
  | .obj members => members.lookup key
  | _ => none

/-- The value at a path of keys. -/
def at? (value : Json) : List String → Option Json
  | [] => some value
  | key :: path => (value.get? key).bind fun inner => inner.at? path

def asString? : Json → Option String
  | .str s => some s
  | _ => none

def asBool? : Json → Option Bool
  | .bool b => some b
  | _ => none

def asArray? : Json → Option (List Json)
  | .arr items => some items
  | _ => none

/-- A whole number of 64 bits with sign. -/
def asInt64? : Json → Option Int
  | .int n => if Word.isSigned 64 n then some n else none
  | _ => none

/-- A whole number of 64 bits without sign. -/
def asNat64? : Json → Option Nat
  | .int n => if Word.isUnsigned 64 n then some n.toNat else none
  | _ => none

/-- Any number, rounded to a double if it is whole. -/
def asDouble? : Json → Option Binary64
  | .int n => some (Binary64.ofInt n)
  | .double x => some x
  | _ => none

/-- A member set in place if its key is there, and added at the end if not. -/
def setMember (key : String) (value : Json) : List (String × Json) → List (String × Json)
  | [] => [(key, value)]
  | (k, v) :: rest => if k = key then (k, value) :: rest else (k, v) :: setMember key value rest

/-- The members of an object as written: a repeated key keeps its first place and its last value. -/
def collectMembers (written : List (String × Json)) : List (String × Json) :=
  written.foldl (fun members m => setMember m.1 m.2 members) []

/-- The values of the fields of a record, in the order of their names; a missing field counts as null.
A record may also be written as the array of all its values. -/
def record? (names : List String) : Json → Option (List Json)
  | .obj members => some (names.map fun name => (members.lookup name).getD .null)
  | .arr items => if items.length = names.length then some items else none
  | _ => none

/-- The name of a case without data: a string, or an object with null under that name alone. -/
def caseName? : Json → Option String
  | .str name => some name
  | .obj [(name, .null)] => some name
  | _ => none

/-- A value that may be left out: null stands for nothing, and anything else has to be read. -/
def optional? (read : Json → Option α) : Json → Option (Option α)
  | .null => some none
  | value => (read value).map some

def ofOption (write : α → Json) : Option α → Json
  | some a => write a
  | none => .null

def ofNat (n : Nat) : Json := .int n

def ofText (t : Text) : Json := .str (String.ofList t)

mutual
/-- Equality of values; two objects are equal if they have the same keys with equal values. -/
def same : Json → Json → Bool
  | .null, .null => true
  | .bool a, .bool b => a == b
  | .int a, .int b => a == b
  | .double a, .double b => a.sameValue b
  | .str a, .str b => a == b
  | .arr as, .arr bs => sameItems as bs
  | .obj as, .obj bs => as.length == bs.length && sameMembers as bs
  | _, _ => false

def sameItems : List Json → List Json → Bool
  | [], [] => true
  | a :: as, b :: bs => same a b && sameItems as bs
  | _, _ => false

/-- Whether every member of the first list has an equal one in the second. -/
def sameMembers : List (String × Json) → List (String × Json) → Bool
  | [], _ => true
  | (key, a) :: as, bs =>
    (match bs.lookup key with
      | some b => same a b
      | none => false) && sameMembers as bs
end

/-- A four-digit escape of a control character. -/
def controlEscape (c : Char) : List Char :=
  let digits := Nat.toDigits 16 c.toNat
  '\\' :: 'u' :: (List.replicate (4 - digits.length) '0' ++ digits)

/-- How a character is written inside a quoted string. -/
def escapeChar (c : Char) : List Char :=
  if c = '"' then ['\\', '"']
  else if c = '\\' then ['\\', '\\']
  else if c = '\n' then ['\\', 'n']
  else if c = '\r' then ['\\', 'r']
  else if c = '\t' then ['\\', 't']
  else if c = Char.ofNat 8 then ['\\', 'b']
  else if c = Char.ofNat 12 then ['\\', 'f']
  else if c.toNat < 0x20 then controlEscape c
  else [c]

/-- A string in quotes. Characters outside ASCII stand for themselves. -/
def quote (s : String) : String :=
  String.ofList ('"' :: (s.toList.flatMap escapeChar ++ ['"']))

mutual
/-- The value without any white space. -/
def render : Json → String
  | .null => "null"
  | .bool true => "true"
  | .bool false => "false"
  | .int n => toString n
  | .double x => x.render Binary64.structured
  | .str s => quote s
  | .arr items => "[" ++ renderItems items ++ "]"
  | .obj members => "\x7b" ++ renderMembers members ++ "\x7d"

def renderItems : List Json → String
  | [] => ""
  | [value] => render value
  | value :: rest => render value ++ "," ++ renderItems rest

def renderMembers : List (String × Json) → String
  | [] => ""
  | [(key, value)] => quote key ++ ":" ++ render value
  | (key, value) :: rest => quote key ++ ":" ++ render value ++ "," ++ renderMembers rest
end

/-- A line break followed by two blanks for each level. -/
def newline (depth : Nat) : String := "\n" ++ String.ofList (List.replicate (2 * depth) ' ')

mutual
/-- The value over several lines, two blanks to a level. -/
def pretty (depth : Nat) : Json → String
  | .arr [] => "[]"
  | .obj [] => "\x7b\x7d"
  | .arr items => "[" ++ prettyItems (depth + 1) items ++ newline depth ++ "]"
  | .obj members => "\x7b" ++ prettyMembers (depth + 1) members ++ newline depth ++ "\x7d"
  | value => render value

def prettyItems (depth : Nat) : List Json → String
  | [] => ""
  | [value] => newline depth ++ pretty depth value
  | value :: rest => newline depth ++ pretty depth value ++ "," ++ prettyItems depth rest

def prettyMembers (depth : Nat) : List (String × Json) → String
  | [] => ""
  | [(key, value)] => newline depth ++ quote key ++ ": " ++ pretty depth value
  | (key, value) :: rest =>
    newline depth ++ quote key ++ ": " ++ pretty depth value ++ "," ++ prettyMembers depth rest
end

end Json

end ScriptLint
