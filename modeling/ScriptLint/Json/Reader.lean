import ScriptLint.Json.Basic
import ScriptLint.Text.Class

/-!
# Reading JSON

A strict reader: one value, with white space around it and nothing else. A number without point and
exponent that fits 64 bits is whole, every other number is a double; `-0` is the negative zero. The
digits of a double are read into 64 bits and scaled by a power of ten, each step with a rounding, so
the last bit of a long literal may differ from that of the nearest double.
-/

namespace ScriptLint.Json

open ScriptLint.Text

def isJsonSpace (c : Char) : Bool := c == ' ' || c == '\t' || c == '\n' || c == '\r'

def skipSpace (cs : Text) : Text := cs.dropWhile isJsonSpace

/-- Four hexadecimal digits. -/
def readHex4 : Text → Option (Nat × Text)
  | a :: b :: c :: d :: rest =>
    if [a, b, c, d].all isHexDigit then some (digitsValue 16 [a, b, c, d], rest) else none
  | _ => none

def isHighSurrogate (n : Nat) : Bool := 0xD800 ≤ n && n < 0xDC00

def isLowSurrogate (n : Nat) : Bool := 0xDC00 ≤ n && n < 0xE000

/-- The code point of a pair of surrogates. -/
def joinSurrogates (high low : Nat) : Char :=
  Char.ofNat (0x10000 + (high - 0xD800) * 0x400 + (low - 0xDC00))

/-- The character of a `\u` escape; a pair of surrogates is one character, a lone one is refused. -/
def readUnicodeEscape (cs : Text) : Option (Char × Text) := do
  let (n, rest) ← readHex4 cs
  if isLowSurrogate n then none
  else if isHighSurrogate n then
    match rest with
    | '\\' :: 'u' :: more => do
      let (m, rest) ← readHex4 more
      if isLowSurrogate m then some (joinSurrogates n m, rest) else none
    | _ => none
  else some (Char.ofNat n, rest)

def simpleEscape? (c : Char) : Option Char :=
  [('"', '"'), ('\\', '\\'), ('/', '/'), ('b', Char.ofNat 8), ('f', Char.ofNat 12), ('n', '\n'),
   ('r', '\r'), ('t', '\t')].lookup c

/-- The rest of a string after its opening quote; `seen` holds what was read, last character first. -/
def readStringTail : Nat → List Char → Text → Option (String × Text)
  | 0, _, _ => none
  | fuel + 1, seen, cs =>
    match cs with
    | '"' :: rest => some (String.ofList seen.reverse, rest)
    | '\\' :: 'u' :: rest => do
      let (c, rest) ← readUnicodeEscape rest
      readStringTail fuel (c :: seen) rest
    | '\\' :: e :: rest => do
      let c ← simpleEscape? e
      readStringTail fuel (c :: seen) rest
    | c :: rest => if c.toNat < 0x20 then none else readStringTail fuel (c :: seen) rest
    | [] => none

def takeDigits (cs : Text) : List Char × Text := cs.span Char.isDigit

/-- The fraction and exponent of a number: their digits and the power of ten, if there are any. -/
structure NumberTail where
  fraction : List Char
  exponent : Option Int
  rest : Text

def readExponent : Text → Option (Option Int × Text)
  | e :: rest =>
    if e = 'e' ∨ e = 'E' then
      let (negative, rest) := match rest with
        | '+' :: r => (false, r)
        | '-' :: r => (true, r)
        | r => (false, r)
      let (digits, rest) := takeDigits rest
      if digits.isEmpty then none
      else
        let n : Int := digitsValue 10 digits
        some (some (if negative then -n else n), rest)
    else some (none, e :: rest)
  | [] => some (none, [])

def readNumberTail : Text → Option NumberTail
  | '.' :: rest => do
    let (digits, rest) := takeDigits rest
    if digits.isEmpty then none
    else
      let (exponent, rest) ← readExponent rest
      some ⟨digits, some (exponent.getD 0), rest⟩
  | cs => do
    let (exponent, rest) ← readExponent cs
    some ⟨[], exponent, rest⟩

/-- Digits taken into a number as long as it fits 64 bits, and how many of them were taken. -/
def takeInto (n : Nat) : List Char → Nat × Nat
  | [] => (n, 0)
  | d :: digits =>
    let next := 10 * n + hexValue d
    if next < Word.count 64 then
      let (m, count) := takeInto next digits
      (m, count + 1)
    else (n, 0)

/-- The double of a literal. Digits beyond 64 bits only move the point. -/
def doubleValue (negative : Bool) (whole fraction : List Char) (exponent : Int) : Option Binary64 :=
  let (n, taken) := takeInto 0 whole
  let (n, behind) := takeInto n fraction
  Binary64.ofParts negative n (exponent + (whole.length - taken : Nat) - behind)

/-- The value of a literal from its sign, its digits and its tail. -/
def numberValue (negative : Bool) (whole : List Char) (tail : NumberTail) : Option Json :=
  match tail.exponent with
  | none =>
    let n := digitsValue 10 whole
    if negative ∧ n = 0 then some (.double (Binary64.zero true))
    else if negative ∧ n ≤ Word.count 63 then some (.int (-n))
    else if ¬ negative ∧ n < Word.count 64 then some (.int n)
    else (doubleValue negative whole [] 0).map .double
  | some exponent => (doubleValue negative whole tail.fraction exponent).map .double

def readNumber (cs : Text) : Option (Json × Text) := do
  let (negative, cs) := match cs with
    | '-' :: rest => (true, rest)
    | rest => (false, rest)
  let (whole, rest) := takeDigits cs
  match whole with
  | [] => none
  | '0' :: _ :: _ => none
  | _ =>
    let tail ← readNumberTail rest
    let value ← numberValue negative whole tail
    some (value, tail.rest)

def readWord (word : List Char) (value : Json) (cs : Text) : Option (Json × Text) :=
  if word.isPrefixOf cs then some (value, cs.drop word.length) else none

mutual
/-- One value and what follows it. Every step down uses up a character, so the length of the text
bounds the depth. -/
def readValue : Nat → Text → Option (Json × Text)
  | 0, _ => none
  | fuel + 1, cs =>
    match skipSpace cs with
    | '"' :: rest => (readStringTail (rest.length + 1) [] rest).map fun r => (.str r.1, r.2)
    | '[' :: rest =>
      match skipSpace rest with
      | ']' :: rest => some (.arr [], rest)
      | rest => (readItems fuel [] rest).map fun r => (.arr r.1, r.2)
    | '{' :: rest =>
      match skipSpace rest with
      | '}' :: rest => some (.obj [], rest)
      | rest => (readMembers fuel [] rest).map fun r => (.obj (collectMembers r.1), r.2)
    | 't' :: rest => readWord ['r', 'u', 'e'] (.bool true) rest
    | 'f' :: rest => readWord ['a', 'l', 's', 'e'] (.bool false) rest
    | 'n' :: rest => readWord ['u', 'l', 'l'] .null rest
    | rest => readNumber rest

/-- The items of an array after its bracket; `seen` holds those read, last one first. -/
def readItems : Nat → List Json → Text → Option (List Json × Text)
  | 0, _, _ => none
  | fuel + 1, seen, cs => do
    let (value, rest) ← readValue fuel cs
    match skipSpace rest with
    | ',' :: rest => readItems fuel (value :: seen) rest
    | ']' :: rest => some ((value :: seen).reverse, rest)
    | _ => none

def readMembers : Nat → List (String × Json) → Text → Option (List (String × Json) × Text)
  | 0, _, _ => none
  | fuel + 1, seen, cs =>
    match skipSpace cs with
    | '"' :: rest => do
      let (key, rest) ← readStringTail (rest.length + 1) [] rest
      match skipSpace rest with
      | ':' :: rest => do
        let (value, rest) ← readValue fuel rest
        match skipSpace rest with
        | ',' :: rest => readMembers fuel ((key, value) :: seen) rest
        | '}' :: rest => some (((key, value) :: seen).reverse, rest)
        | _ => none
      | _ => none
    | _ => none
end

/-- The value that a whole text holds. -/
def parse? (text : Text) : Option Json := do
  let (value, rest) ← readValue (text.length + 1) text
  if (skipSpace rest).isEmpty then some value else none

end ScriptLint.Json
