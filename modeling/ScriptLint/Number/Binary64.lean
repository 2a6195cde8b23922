import ScriptLint.Number.Word

/-!
# Binary floating point numbers

The finite numbers of the binary64 format, held exactly: a sign, a significand below 2^53 and a
power of two. Every rounding is to the nearest number, a tie going to the even significand, and is
done in exact natural-number arithmetic.

* `ofRatio` rounds a quotient, `ofDecimal` a decimal literal, `ofInt` an integer;
* `scaled` is the number times 2^1074, an integer, so that numbers compare as integers do.
-/

namespace ScriptLint

/-- A number is `significand · 2^exponent`, negated if `negative`. Normal numbers have a significand
of 53 bits; subnormal ones have the exponent -1074. -/
structure Binary64 where
  negative : Bool
  significand : Nat
  exponent : Int
  deriving DecidableEq, Repr, Inhabited

namespace Binary64

def minExponent : Int := -1074

def maxExponent : Int := 971

def zero (negative : Bool) : Binary64 := ⟨negative, 0, minExponent⟩

/-- `num / den` divided by a power of two, again as a quotient. -/
def divPower (num den : Nat) (exponent : Int) : Nat × Nat :=
  if 0 ≤ exponent then (num, den * Nat.pow 2 exponent.toNat) else (num * Nat.pow 2 (-exponent).toNat, den)

/-- The integer nearest to a quotient; a tie goes to the even neighbour. -/
def roundQuotient (num den : Nat) : Nat :=
  let whole := num / den
  let rest := num % den
  if 2 * rest < den then whole
  else if den < 2 * rest then whole + 1
  else if whole % 2 = 0 then whole else whole + 1

/-- The power of two in whose units the quotient has 53 bits before the point, or the least one. -/
def unitExponent (num den : Nat) : Int :=
  let guess : Int := (Nat.log2 num : Int) - (Nat.log2 den : Int) - 53
  let (n, d) := divPower num den guess
  let exact := if Nat.pow 2 53 ≤ n / d then guess + 1 else guess
  max minExponent exact

/-- The number nearest to a quotient of naturals, or nothing if that is beyond the largest one. -/
def ofRatio (negative : Bool) (num den : Nat) : Option Binary64 :=
  if num = 0 then some (zero negative)
  else
    let exponent := unitExponent num den
    let (n, d) := divPower num den exponent
    let rounded := roundQuotient n d
    let result : Binary64 :=
      if rounded = Nat.pow 2 53 then ⟨negative, Nat.pow 2 52, exponent + 1⟩ else ⟨negative, rounded, exponent⟩
    if maxExponent < result.exponent then none else some result

/-- The number nearest to `digits · 10^power`. Powers far outside the range of the format are decided
by the number of digits, without computing them. -/
def ofDecimal (negative : Bool) (digits : Nat) (power : Int) : Option Binary64 :=
  let magnitude : Int := (Nat.log2 digits : Int) / 4 + power
  if digits = 0 then some (zero negative)
  else if 400 < magnitude then none
  else if (Nat.log2 digits : Int) + power < -400 then some (zero negative)
  else if 0 ≤ power then ofRatio negative (digits * Nat.pow 10 power.toNat) 1
  else ofRatio negative digits (Nat.pow 10 (-power).toNat)

/-- The number nearest to an integer of the ranges that occur, all far below the largest number. -/
def ofInt (n : Int) : Binary64 :=
  (ofRatio (n < 0) n.natAbs 1).getD (zero false)

def scaled (x : Binary64) : Int :=
  let magnitude : Int := (x.significand * Nat.pow 2 (x.exponent - minExponent).toNat : Nat)
  if x.negative then -magnitude else magnitude

/-- The absolute value as a quotient. -/
def ratio (x : Binary64) : Nat × Nat := divPower x.significand 1 (-x.exponent)

/-- The product, or nothing if it is beyond the largest number. -/
def mul (x y : Binary64) : Option Binary64 :=
  ofRatio (x.negative != y.negative) (x.ratio.1 * y.ratio.1) (x.ratio.2 * y.ratio.2)

/-- The quotient by a number that is not zero. -/
def div (x y : Binary64) : Option Binary64 :=
  ofRatio (x.negative != y.negative) (x.ratio.1 * y.ratio.2) (x.ratio.2 * y.ratio.1)

/-- The number nearest to a power of ten. -/
def powerOfTen (power : Nat) : Option Binary64 := ofRatio false (Nat.pow 10 power) 1

/-- A whole number times a power of ten with a rounding at every step: the whole number is rounded,
and then multiplied or divided by the rounded power. Powers below 10^-308 are divided out one after
another. -/
def ofSteps (x : Binary64) (power : Int) : (more : Nat) → Option Binary64
  | 0 => some x
  | more + 1 =>
    if x.significand = 0 then some x
    else if 308 < power then none
    else if 0 ≤ power then (powerOfTen power.toNat).bind x.mul
    else if -308 ≤ power then (powerOfTen (-power).toNat).bind x.div
    else do ofSteps (← x.div (← powerOfTen 308)) (power + 308) more

/-- The number that a literal stands for when every step of its reading rounds. -/
def ofParts (negative : Bool) (whole : Nat) (power : Int) : Option Binary64 :=
  (ofSteps (ofInt whole) power 4).map fun x => { x with negative := negative }

/-- Equality of values: the two zeros are equal. -/
def sameValue (x y : Binary64) : Bool := x.scaled == y.scaled

def lt (x y : Binary64) : Bool := x.scaled < y.scaled

/-- The value with its fraction dropped, brought into the range of 64-bit naturals. -/
def truncate (x : Binary64) : Nat :=
  min (x.scaled / (Nat.pow 2 1074 : Nat)).toNat (Word.count 64 - 1)

end Binary64

end ScriptLint
