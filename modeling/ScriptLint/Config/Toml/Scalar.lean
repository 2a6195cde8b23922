import ScriptLint.Config.Wire
import ScriptLint.Text.Class

/-!
# TOML scalars

Strings in four forms, whole numbers in four bases, doubles, truth values, and dates and times. A
bare word is taken up to the next character that cannot belong to it and has to be a scalar as a
whole.
-/

namespace ScriptLint.Toml

open Text (isHexDigit digitsValue)

/-- The control characters, except the tab. -/
def isControl (c : Char) : Bool := (c.toNat < 0x20 && c != '\t') || c.toNat == 0x7F

def isBlank (c : Char) : Bool := c == ' ' || c == '\t'

def skipBlanks (cs : Text) : Text := cs.dropWhile isBlank

/-- What follows a line end, if a text starts with one. -/
def afterLineEnd? : Text → Option Text
  | '\n' :: rest => some rest
  | '\r' :: '\n' :: rest => some rest
  | _ => none

/-! ## Strings -/

/-- A character by some hexadecimal digits, and the rest. -/
def readCode (count : Nat) (cs : Text) : Option (Char × Text) :=
  let digits := cs.take count
  let n := digitsValue 16 digits
  if digits.length = count ∧ digits.all isHexDigit ∧ n.isValidChar then
    some (Char.ofNat n, cs.drop count)
  else none

def readEscape : Text → Option (Char × Text)
  | 'b' :: rest => some (Char.ofNat 8, rest)
  | 't' :: rest => some ('\t', rest)
  | 'n' :: rest => some ('\n', rest)
  | 'f' :: rest => some (Char.ofNat 12, rest)
  | 'r' :: rest => some ('\r', rest)
  | 'e' :: rest => some (Char.ofNat 27, rest)
  | '"' :: rest => some ('"', rest)
  | '\\' :: rest => some ('\\', rest)
  | 'x' :: rest => readCode 2 rest
  | 'u' :: rest => readCode 4 rest
  | 'U' :: rest => readCode 8 rest
  | _ => none

/-- The rest of a string on one line behind its opening quote; `escapes` says whether a backslash
means anything. -/
def readLine (quote : Char) (escapes : Bool) : Nat → (seen : Text) → Text → Option (String × Text)
  | 0, _, _ => none
  | fuel + 1, seen, cs =>
    match cs with
    | [] => none
    | c :: rest =>
      if c = quote then some (String.ofList seen.reverse, rest)
      else if c = '\\' ∧ escapes then do
        let (c, rest) ← readEscape rest
        readLine quote escapes fuel (c :: seen) rest
      else if isControl c then none
      else readLine quote escapes fuel (c :: seen) rest

/-- The text behind a line end, with the blanks and line ends that follow; `some` only if a line end
comes after nothing but blanks. -/
def afterFold? (cs : Text) : Option Text :=
  (afterLineEnd? (skipBlanks cs)).map fun rest =>
    rest.dropWhile fun c => isBlank c || c == '\n' || c == '\r'

/-- The rest of a string over several lines. It ends with three quotes, and one or two more quotes
before them belong to it. -/
def readBlock (quote : Char) (escapes : Bool) : Nat → (seen : Text) → Text → Option (String × Text)
  | 0, _, _ => none
  | fuel + 1, seen, cs =>
    match cs with
    | [] => none
    | c :: rest =>
      if c = quote then
        let quotes := cs.takeWhile (· == quote)
        let behind := cs.dropWhile (· == quote)
        if quotes.length < 3 then readBlock quote escapes fuel (quotes ++ seen) behind
        else if quotes.length < 6 then
          some (String.ofList (quotes.drop 3 ++ seen).reverse, behind)
        else none
      else if c = '\\' ∧ escapes then
        match afterFold? rest with
        | some rest => readBlock quote escapes fuel seen rest
        | none => do
          let (c, rest) ← readEscape rest
          readBlock quote escapes fuel (c :: seen) rest
      else if c = '\n' then readBlock quote escapes fuel (c :: seen) rest
      else if c = '\r' then
        if rest.head? = some '\n' then readBlock quote escapes fuel (c :: seen) rest else none
      else if isControl c then none
      else readBlock quote escapes fuel (c :: seen) rest

def apostrophe : Char := Char.ofNat 0x27

/-- A string with one quote at each end. -/
def readShortString (cs : Text) : Option (String × Text) :=
  match cs with
  | c :: rest =>
    if c = '"' then readLine '"' true cs.length [] rest
    else if c = apostrophe then readLine apostrophe false cs.length [] rest
    else none
  | [] => none

/-- A string with three quotes at each end; a line end right behind the opening ones is dropped. -/
def readLongString (cs : Text) : Option (String × Text) :=
  let body := (afterLineEnd? (cs.drop 3)).getD (cs.drop 3)
  if ['"', '"', '"'].isPrefixOf cs then readBlock '"' true cs.length [] body
  else if (List.replicate 3 apostrophe).isPrefixOf cs then
    readBlock apostrophe false cs.length [] body
  else none

def readString (cs : Text) : Option (String × Text) := (readLongString cs).or (readShortString cs)

/-! ## Numbers -/

/-- Digits without the underscores between them; an underscore stands between two digits only. -/
def plainDigits? (isDigit : Char → Bool) : Text → Option Text
  | [] => none
  | [d] => if isDigit d then some [d] else none
  | d :: '_' :: rest => if isDigit d then (plainDigits? isDigit rest).map (d :: ·) else none
  | d :: rest => if isDigit d then (plainDigits? isDigit rest).map (d :: ·) else none

/-- Decimal digits that start with a zero only if they are nothing else. -/
def wholeDigits? (cs : Text) : Option Text :=
  (plainDigits? Char.isDigit cs).filter fun digits => digits.length = 1 ∨ digits.head? ≠ some '0'

/-- The reading of a whole number: 64 bits, with or without sign, have a JSON value. -/
def wholeReading (n : Int) : NumberReading :=
  let fits := Word.isSigned 64 n || Word.isUnsigned 64 n
  ⟨Word.isSigned 128 n || Word.isUnsigned 128 n, if fits then some (.int n) else none,
    if fits ∧ 0 ≤ n then some n.toNat else none⟩

/-- A sign and the text behind it. -/
def splitSign : Text → Bool × Bool × Text
  | '+' :: rest => (true, false, rest)
  | '-' :: rest => (true, true, rest)
  | rest => (false, false, rest)

/-- A whole number with a letter for its base; it must not have a sign. -/
def based? : Text → Option NumberReading
  | '0' :: 'x' :: rest =>
    (plainDigits? isHexDigit rest).map fun digits => wholeReading (digitsValue 16 digits)
  | '0' :: 'o' :: rest =>
    (plainDigits? (fun c => '0' ≤ c && c ≤ '7') rest).map fun digits =>
      wholeReading (digitsValue 8 digits)
  | '0' :: 'b' :: rest =>
    (plainDigits? (fun c => c == '0' || c == '1') rest).map fun digits =>
      wholeReading (digitsValue 2 digits)
  | _ => none

def exponent? (cs : Text) : Option Int :=
  let (_, negative, digits) := splitSign cs
  (plainDigits? Char.isDigit digits).map fun digits =>
    let n : Int := digitsValue 10 digits
    if negative then -n else n

def double (negative : Bool) (whole fraction : Text) (exponent : Int) : NumberReading :=
  match Binary64.ofDecimal negative (digitsValue 10 (whole ++ fraction)) (exponent - fraction.length) with
  | some x => ⟨true, some (.double x), none⟩
  | none => ⟨false, none, none⟩

/-- The parts of a text before and behind the first character of a class. -/
def cutAt? (p : Char → Bool) (cs : Text) : Option (Text × Text) :=
  match cs.dropWhile fun c => ! p c with
  | [] => none
  | _ :: behind => some (cs.takeWhile (fun c => ! p c), behind)

def decimal? (cs : Text) : Option NumberReading := do
  let (_, negative, body) := splitSign cs
  let (mantissa, exponent) := match cutAt? (fun c => c == 'e' || c == 'E') body with
    | some (mantissa, behind) => (mantissa, some behind)
    | none => (body, none)
  match cutAt? (· == '.') mantissa, exponent with
  | none, none => do
    let n : Int := digitsValue 10 (← wholeDigits? mantissa)
    some (wholeReading (if negative then -n else n))
  | none, some e => do some (double negative (← wholeDigits? mantissa) [] (← exponent? e))
  | some (whole, fraction), none => do
    some (double negative (← wholeDigits? whole) (← plainDigits? Char.isDigit fraction) 0)
  | some (whole, fraction), some e => do
    some (double negative (← wholeDigits? whole) (← plainDigits? Char.isDigit fraction)
      (← exponent? e))

/-- Infinity and what is no number; JSON has neither. -/
def strange? (cs : Text) : Option NumberReading :=
  let (_, _, word) := splitSign cs
  if word = ['i', 'n', 'f'] ∨ word = ['n', 'a', 'n'] then some ⟨true, some .null, none⟩ else none

def number? (cs : Text) : Option NumberReading := ((based? cs).or (strange? cs)).or (decimal? cs)

/-! ## Dates and times -/

/-- A number of a fixed count of digits within bounds, and the rest. -/
def readField (count low high : Nat) (cs : Text) : Option (Text × Text) :=
  let digits := cs.take count
  let n := digitsValue 10 digits
  if digits.length = count ∧ digits.all Char.isDigit ∧ low ≤ n ∧ n ≤ high then
    some (digits, cs.drop count)
  else none

def readChar (p : Char → Bool) : Text → Option Text
  | c :: rest => if p c then some rest else none
  | [] => none

def isLeapYear (year : Nat) : Bool := (year % 4 == 0 && year % 100 != 0) || year % 400 == 0

def daysIn (year month : Nat) : Nat :=
  if month = 2 then (if isLeapYear year then 29 else 28)
  else if month = 4 ∨ month = 6 ∨ month = 9 ∨ month = 11 then 30 else 31

/-- A date as it is written, and the rest. -/
def readDate (cs : Text) : Option (Text × Text) := do
  let (year, cs) ← readField 4 0 9999 cs
  let cs ← readChar (· == '-') cs
  let (month, cs) ← readField 2 1 12 cs
  let cs ← readChar (· == '-') cs
  let (day, cs) ← readField 2 1 (daysIn (digitsValue 10 year) (digitsValue 10 month)) cs
  some (year ++ '-' :: month ++ '-' :: day, cs)

/-- The fraction of a second down to billionths, without zeros at its end. -/
def trimFraction (digits : Text) : Text :=
  match ((digits.take 9).reverse.dropWhile (· == '0')).reverse with
  | [] => []
  | kept => '.' :: kept

/-- The seconds of a time, which may be missing. -/
def readSeconds : Text → Option (Text × Text)
  | ':' :: rest => do
    let (second, rest) ← readField 2 0 60 rest
    match rest with
    | '.' :: more =>
      let digits := more.takeWhile Char.isDigit
      if digits.isEmpty then none
      else some (':' :: second ++ trimFraction digits, more.dropWhile Char.isDigit)
    | rest => some (':' :: second, rest)
  | rest => some ([], rest)

def readTime (cs : Text) : Option (Text × Text) := do
  let (hour, cs) ← readField 2 0 23 cs
  let cs ← readChar (· == ':') cs
  let (minute, cs) ← readField 2 0 59 cs
  let (seconds, cs) ← readSeconds cs
  some (hour ++ ':' :: minute ++ seconds, cs)

/-- The offset of a time from the universal one; there may be none. -/
def readOffset (cs : Text) : Option Text := do
  match cs with
  | [] => some []
  | ['Z'] => some ['Z']
  | ['z'] => some ['Z']
  | sign :: rest =>
    if sign == '+' || sign == '-' then
      let (hour, rest) ← readField 2 0 23 rest
      let rest ← readChar (· == ':') rest
      let (minute, rest) ← readField 2 0 59 rest
      if rest.isEmpty then some (sign :: hour ++ ':' :: minute) else none
    else none

/-- A date, a time, or both, in its normal form. -/
def moment? (cs : Text) : Option Text :=
  match readDate cs with
  | some (date, []) => some date
  | some (date, rest) => do
    let rest ← readChar (fun c => c == 'T' || c == 't' || c == ' ') rest
    let (time, rest) ← readTime rest
    some (date ++ 'T' :: time ++ (← readOffset rest))
  | none =>
    match readTime cs with
    | some (time, []) => some time
    | _ => none

/-- The key under which a date or time is kept. -/
def momentKey : String := "$__toml_private_datetime"

/-! ## Bare words -/

def isWordPart (c : Char) : Bool :=
  c.isAlphanum || c == '_' || c == '+' || c == '-' || c == '.' || c == ':'

/-- A bare word; a date and a time may have one blank between them. -/
def readBare (cs : Text) : Text × Text :=
  let word := cs.takeWhile isWordPart
  let rest := cs.dropWhile isWordPart
  match rest with
  | ' ' :: d :: more =>
    if d.isDigit && (readDate word).any (fun r => r.2.isEmpty) then
      let time := (d :: more).takeWhile isWordPart
      (word ++ ' ' :: time, (d :: more).dropWhile isWordPart)
    else (word, rest)
  | _ => (word, rest)

def scalar? (word : Text) : Option Wire :=
  if word = ['t', 'r', 'u', 'e'] then some (.bool true)
  else if word = ['f', 'a', 'l', 's', 'e'] then some (.bool false)
  else
    match moment? word with
    | some text => some (.obj [(momentKey, .str (String.ofList text))])
    | none => (number? word).map .number

/-- A scalar without brackets around it, and the rest. -/
def readScalar (cs : Text) : Option (Wire × Text) :=
  match cs with
  | [] => none
  | c :: _ =>
    if c = '"' ∨ c = apostrophe then (readString cs).map fun r => (.str r.1, r.2)
    else
      let (word, rest) := readBare cs
      (scalar? word).map (·, rest)

end ScriptLint.Toml
