import ScriptLint.Text.Basic
import ScriptLint.Text.Letters
import ScriptLint.Text.Alphabetic
import ScriptLint.Text.Numerals

/-!
# Character classes

White space, letters and numerals as the Unicode character database defines them, and the two
classes that identifiers are made of. `isWordStart_isWordPart`: what may start a word may also
continue it.
-/

namespace ScriptLint

namespace Text

/-- Whether a character lies in one of the ranges, both ends included. -/
def inRanges (ranges : List (Nat × Nat)) (c : Char) : Bool :=
  ranges.any fun range => range.1 ≤ c.toNat && c.toNat ≤ range.2

/-- The property White_Space. -/
def isSpace (c : Char) : Bool :=
  inRanges
    [(0x09, 0x0D), (0x20, 0x20), (0x85, 0x85), (0xA0, 0xA0), (0x1680, 0x1680), (0x2000, 0x200A),
     (0x2028, 0x2029), (0x202F, 0x202F), (0x205F, 0x205F), (0x3000, 0x3000)] c

def byteOrderMark : Char := Char.ofNat 0xFEFF

/-- What separates tokens without being one: white space, and the byte order mark anywhere. -/
def isBlank (c : Char) : Bool := isSpace c || c == byteOrderMark

def isLineBreak (c : Char) : Bool := c == '\n' || c == '\r'

/-- The letter categories and letter numbers. -/
def isLetter (c : Char) : Bool :=
  if c.toNat < 0x80 then c.isAlpha else inRanges letterRanges c

/-- The property Alphabetic. -/
def isAlphabetic (c : Char) : Bool :=
  if c.toNat < 0x80 then c.isAlpha else inRanges letterRanges c || inRanges otherAlphabeticRanges c

/-- Decimal digits and other numbers; letter numbers are alphabetic. -/
def isNumeral (c : Char) : Bool :=
  if c.toNat < 0x80 then c.isDigit
  else inRanges decimalDigitRanges c || inRanges otherNumberRanges c

def isWordStart (c : Char) : Bool := c == '_' || c == '$' || isAlphabetic c

def isWordPart (c : Char) : Bool := c == '_' || c == '$' || isAlphabetic c || isNumeral c

theorem isWordStart_isWordPart {c : Char} (h : isWordStart c = true) : isWordPart c = true := by
  simp only [isWordStart, isWordPart] at *
  simp [h]

/-- The ASCII digits and the letters a to f, in either case. -/
def isHexDigit (c : Char) : Bool :=
  c.isDigit || ('a' ≤ c && c ≤ 'f') || ('A' ≤ c && c ≤ 'F')

/-- The value of a hexadecimal digit, and 0 for any other character. -/
def hexValue (c : Char) : Nat :=
  if c.isDigit then c.toNat - '0'.toNat
  else if 'a' ≤ c && c ≤ 'f' then c.toNat - 'a'.toNat + 10
  else if 'A' ≤ c && c ≤ 'F' then c.toNat - 'A'.toNat + 10
  else 0

/-- A list of digits of the given base, read from the left. -/
def digitsValue (base : Nat) (digits : List Char) : Nat :=
  digits.foldl (fun value c => value * base + hexValue c) 0

end Text

end ScriptLint
