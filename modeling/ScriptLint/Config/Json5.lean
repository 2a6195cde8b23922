import ScriptLint.Config.Wire
import ScriptLint.Json.Reader
import ScriptLint.Text.Marks

/-!
# Reading JSON5

JSON with comments, commas at the end, names as keys, single quotes, and numbers in more forms. The
reader yields a `Wire` value. A whole number is read as 64 bits with sign, one in hexadecimal digits
as 32 bits without; a count is read as a double and cut off.
-/

namespace ScriptLint.Json5

open Text (isHexDigit digitsValue inRanges)

def isLineEnd (c : Char) : Bool := c == '\n' || c == '\r' || inRanges [(0x2028, 0x2029)] c

def isSpace (c : Char) : Bool := Text.isBlank c && c.toNat != 0x85

/-- What follows the end of a block comment. -/
def afterComment? : Text → Option Text
  | '*' :: '/' :: rest => some rest
  | _ :: rest => afterComment? rest
  | [] => none

/-- The text without white space and comments at its front. -/
def skip : Nat → Text → Text
  | 0, cs => cs
  | fuel + 1, cs =>
    match cs with
    | '/' :: '/' :: rest => skip fuel (rest.dropWhile fun c => ! isLineEnd c)
    | '/' :: '*' :: rest =>
      match afterComment? rest with
      | some rest => skip fuel rest
      | none => cs
    | c :: rest => if isSpace c then skip fuel rest else cs
    | [] => []

def skipSpace (cs : Text) : Text := skip cs.length cs

/-! ## Strings and names -/

/-- The characters that a letter behind a backslash stands for. -/
def escape? (c : Char) : Option Char :=
  match c with
  | '0' => some (Char.ofNat 0)
  | 'b' => some (Char.ofNat 8)
  | 't' => some '\t'
  | 'n' => some '\n'
  | 'v' => some (Char.ofNat 11)
  | 'f' => some (Char.ofNat 12)
  | 'r' => some '\r'
  | c => if c.isDigit then none else some c

/-- What stands behind a backslash; the end of a line stands for nothing. -/
def readEscape : Text → Option (Text × Text)
  | 'u' :: rest => (Json.readUnicodeEscape rest).map fun r => ([r.1], r.2)
  | 'x' :: a :: b :: rest =>
    if isHexDigit a && isHexDigit b then some ([Char.ofNat (digitsValue 16 [a, b])], rest) else none
  | 'x' :: _ => none
  | '\r' :: '\n' :: rest => some ([], rest)
  | c :: rest => if isLineEnd c then some ([], rest) else (escape? c).map fun e => ([e], rest)
  | [] => none

/-- The rest of a string behind its opening quote; `seen` holds what was read, last one first. -/
def readString (quote : Char) : Nat → (seen : Text) → Text → Option (String × Text)
  | 0, _, _ => none
  | fuel + 1, seen, cs =>
    match cs with
    | '\\' :: rest => do
      let (chars, rest) ← readEscape rest
      readString quote fuel (chars.reverse ++ seen) rest
    | c :: rest =>
      if c = quote then some (String.ofList seen.reverse, rest)
      else if isLineEnd c then none
      else readString quote fuel (c :: seen) rest
    | [] => none

def isNameStart (c : Char) : Bool := Text.isLetter c || c == '$' || c == '_'

/-- Punctuation that joins words, and the two joiners without width. -/
def joinerRanges : List (Nat × Nat) :=
  [(0x200C, 0x200D), (0x203F, 0x2040), (0x2054, 0x2054), (0xFE33, 0xFE34), (0xFE4D, 0xFE4F),
   (0xFF3F, 0xFF3F)]

def isNamePart (c : Char) : Bool :=
  isNameStart c || inRanges Text.nonspacingRanges c || c.isDigit ||
    inRanges Text.decimalDigitRanges c || inRanges joinerRanges c

/-- A name from its next character on. -/
def readName (accepts : Char → Bool) : Nat → (seen : Text) → Text → Option (String × Text)
  | 0, _, _ => none
  | fuel + 1, seen, cs =>
    let done := if seen.isEmpty then none else some (String.ofList seen.reverse, cs)
    match cs with
    | '\\' :: 'u' :: rest => do
      let (c, rest) ← Json.readUnicodeEscape rest
      readName isNamePart fuel (c :: seen) rest
    | c :: rest => if accepts c then readName isNamePart fuel (c :: seen) rest else done
    | [] => done

def readKey (cs : Text) : Option (String × Text) :=
  match cs with
  | '"' :: rest => readString '"' cs.length [] rest
  | '\'' :: rest => readString '\'' cs.length [] rest
  | cs => readName isNameStart (cs.length + 1) [] cs

/-! ## Numbers -/

def maxCount : Nat := Word.count 64 - 1

def unreadable : NumberReading := ⟨false, none, none⟩

/-- A sign, if there is one: its character and the rest. -/
def readSign : Text → Option Char × Text
  | '+' :: rest => (some '+', rest)
  | '-' :: rest => (some '-', rest)
  | rest => (none, rest)

/-- A number in hexadecimal digits; it must not have a sign. -/
def hexReading (sign : Option Char) (digits : Text) : NumberReading :=
  let n := digitsValue 16 digits
  if sign.isNone ∧ n < Word.count 32 then ⟨true, some (.int n), some n⟩ else unreadable

/-- Infinity or no number at all, neither of which JSON has. -/
def strangeReading (sign : Option Char) (count : Nat) : NumberReading :=
  match sign with
  | some '+' => unreadable
  | some _ => ⟨true, some .null, some 0⟩
  | none => ⟨true, some .null, some count⟩

def wholeReading (negative : Bool) (digits : Text) : NumberReading :=
  let size : Int := digitsValue 10 digits
  let n := if negative then -size else size
  let fits := Word.isSigned 64 n
  ⟨fits, if fits then some (.int n) else none,
    (Binary64.ofDecimal negative size.toNat 0).map Binary64.truncate⟩

def doubleReading (negative : Bool) (whole fraction : Text) (exponent : Int) : NumberReading :=
  match Binary64.ofDecimal negative (digitsValue 10 (whole ++ fraction)) (exponent - fraction.length) with
  | some x => ⟨true, some (.double x), some x.truncate⟩
  | none => unreadable

/-- An exponent, if there is one. -/
def readExponent (cs : Text) : Option Int × Text :=
  match cs with
  | e :: rest =>
    let (sign, behind) := readSign rest
    let digits := behind.takeWhile Char.isDigit
    if (e == 'e' || e == 'E') && ! digits.isEmpty then
      let n : Int := digitsValue 10 digits
      (some (if sign = some '-' then -n else n), behind.dropWhile Char.isDigit)
    else (none, cs)
  | [] => (none, [])

/-- The digits before the point: a zero, or digits that start with another one. -/
def readWhole (cs : Text) : Text × Text :=
  match cs with
  | '0' :: rest => (['0'], rest)
  | cs => cs.span Char.isDigit

def readDecimal (sign : Option Char) (cs : Text) : Option (NumberReading × Text) :=
  let negative := sign == some '-'
  match readWhole cs with
  | (whole, '.' :: rest) =>
    let fraction := rest.takeWhile Char.isDigit
    if whole.isEmpty && fraction.isEmpty then none
    else
      let (exponent, rest) := readExponent (rest.dropWhile Char.isDigit)
      some (doubleReading negative whole fraction (exponent.getD 0), rest)
  | ([], _) => none
  | (whole, rest) =>
    match readExponent rest with
    | (some exponent, rest) => some (doubleReading negative whole [] exponent, rest)
    | (none, rest) => some (wholeReading negative whole, rest)

def afterWord? (word : String) (cs : Text) : Option Text :=
  if word.toList.isPrefixOf cs then some (cs.drop word.toList.length) else none

/-- The digits behind `0x`. -/
def hexDigits? : Text → Option (Text × Text)
  | '0' :: x :: rest =>
    let digits := rest.takeWhile isHexDigit
    if (x == 'x' || x == 'X') && ! digits.isEmpty then some (digits, rest.dropWhile isHexDigit)
    else none
  | _ => none

def readNumber (cs : Text) : Option (NumberReading × Text) :=
  let (sign, cs) := readSign cs
  match hexDigits? cs, afterWord? "Infinity" cs, afterWord? "NaN" cs with
  | some (digits, rest), _, _ => some (hexReading sign digits, rest)
  | none, some rest, _ => some (strangeReading sign maxCount, rest)
  | none, none, some rest => some (strangeReading sign 0, rest)
  | none, none, none => readDecimal sign cs

/-! ## Values -/

/-- A word that stands for a value. -/
def readWord (cs : Text) : Option (Wire × Text) :=
  [("null", Wire.null), ("true", .bool true), ("false", .bool false)].findSome? fun (word, value) =>
    (afterWord? word cs).map (value, ·)

mutual
/-- One value and what follows it. -/
def readValue : Nat → Text → Option (Wire × Text)
  | 0, _ => none
  | fuel + 1, cs =>
    match skipSpace cs with
    | '[' :: rest => (readItems fuel [] rest).map fun r => (.arr r.1, r.2)
    | '{' :: rest => (readMembers fuel [] rest).map fun r => (.obj r.1, r.2)
    | '"' :: rest => (readString '"' (rest.length + 1) [] rest).map fun r => (.str r.1, r.2)
    | '\'' :: rest => (readString '\'' (rest.length + 1) [] rest).map fun r => (.str r.1, r.2)
    | cs => (readWord cs).or ((readNumber cs).map fun r => (.number r.1, r.2))

/-- The items of an array from here on; a comma may stand behind the last one. -/
def readItems : Nat → (seen : List Wire) → Text → Option (List Wire × Text)
  | 0, _, _ => none
  | fuel + 1, seen, cs =>
    match skipSpace cs with
    | ']' :: rest => some (seen.reverse, rest)
    | cs => do
      let (value, rest) ← readValue fuel cs
      match skipSpace rest with
      | ',' :: rest => readItems fuel (value :: seen) rest
      | ']' :: rest => some ((value :: seen).reverse, rest)
      | _ => none

/-- The members of an object from here on; a comma may stand behind the last one. -/
def readMembers : Nat → (seen : List (String × Wire)) → Text → Option (List (String × Wire) × Text)
  | 0, _, _ => none
  | fuel + 1, seen, cs =>
    match skipSpace cs with
    | '}' :: rest => some (seen.reverse, rest)
    | cs => do
      let (key, rest) ← readKey cs
      match skipSpace rest with
      | ':' :: rest => do
        let (value, rest) ← readValue fuel rest
        match skipSpace rest with
        | ',' :: rest => readMembers fuel ((key, value) :: seen) rest
        | '}' :: rest => some (((key, value) :: seen).reverse, rest)
        | _ => none
      | _ => none
end

/-- The value that a whole text holds. -/
def parse? (text : Text) : Option Wire := do
  let (value, rest) ← readValue (text.length + 1) text
  if (skipSpace rest).isEmpty then some value else none

end ScriptLint.Json5
