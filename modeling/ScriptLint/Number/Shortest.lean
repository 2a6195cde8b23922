import ScriptLint.Number.Binary64

/-!
# Shortest decimal texts

A number is written with the fewest digits that read back as the same number, and of those with the
digits nearest to it. `shortest` finds the digits; a `Layout` says how they are set out.
-/

namespace ScriptLint.Binary64

/-- Decimal digits `d₁d₂…dₙ`, none of them a leading or trailing zero, with the power of ten of the
first one. -/
structure Decimal where
  digits : List Char
  leading : Int
  deriving DecidableEq, Repr

/-- The reals that round to a positive number, in quarters of its unit: the ends, and whether they
belong to it. -/
structure Basin where
  low : Nat
  high : Nat
  closed : Bool

def basin (x : Binary64) : Basin :=
  let narrow := x.significand = Nat.pow 2 52 ∧ minExponent < x.exponent
  ⟨4 * x.significand - (if narrow then 1 else 2), 4 * x.significand + 2, x.significand % 2 = 0⟩

/-- Whether a multiple of a grid lies in the basin; `unit` and `grid` bring the two to one scale. -/
def Basin.holds (b : Basin) (unit grid n : Nat) : Bool :=
  if b.closed then b.low * unit ≤ n * grid && n * grid ≤ b.high * unit
  else b.low * unit < n * grid && n * grid < b.high * unit

/-- The factors by which quarters of the unit of `x` and multiples of `10^power` come to one scale. -/
def gridFactors (x : Binary64) (power : Int) : Nat × Nat :=
  let quarter := x.exponent - 2
  let two := if 0 ≤ quarter then (Nat.pow 2 quarter.toNat, 1) else (1, Nat.pow 2 (-quarter).toNat)
  let ten := if 0 ≤ power then (Nat.pow 10 power.toNat, 1) else (1, Nat.pow 10 (-power).toNat)
  (two.1 * ten.2, ten.1 * two.2)

/-- The multiple of `10^power` that stands for `x` on this grid, if one rounds to `x`: the nearer of
the two neighbours, the even one on a tie. -/
def onGrid (x : Binary64) (power : Int) : Option Nat :=
  let (unit, grid) := gridFactors x power
  let value := 4 * x.significand * unit
  let below := value / grid
  let above := below + 1
  let ok := (basin x).holds unit grid
  let nearer :=
    if 2 * (value % grid) < grid then below
    else if grid < 2 * (value % grid) then above
    else if below % 2 = 0 then below else above
  if ok nearer then some nearer
  else if ok below then some below
  else if ok above then some above
  else none

/-- The power of ten of the first digit of a positive number. -/
def leadingPower (x : Binary64) : Int :=
  let digitsOf (n : Nat) : Int := (Nat.toDigits 10 n).length
  if 0 ≤ x.exponent then digitsOf (x.significand * Nat.pow 2 x.exponent.toNat) - 1
  else
    let scale := Nat.pow 10 400
    digitsOf (x.significand * scale / Nat.pow 2 (-x.exponent).toNat) - 401

def dropTrailingZeros (digits : List Char) : List Char :=
  (digits.reverse.dropWhile (· == '0')).reverse

/-- Tries grids of more and more digits, from `count` on; seventeen always suffice. -/
def search (x : Binary64) (leading : Int) (count : Nat) : Nat → Decimal
  | 0 => ⟨Nat.toDigits 10 x.significand, leading⟩
  | more + 1 =>
    let power := leading - count + 1
    match onGrid x power with
    | some n =>
      let digits := Nat.toDigits 10 n
      ⟨dropTrailingZeros digits, power + digits.length - 1⟩
    | none => search x leading (count + 1) more

/-- The shortest decimal that reads back as `x`, sign left out; zero has the digit 0. -/
def shortest (x : Binary64) : Decimal :=
  if x.significand = 0 then ⟨['0'], 0⟩ else search x (leadingPower x) 1 17

/-- How the digits of a number are set out. -/
structure Layout where
  /-- The powers of the first digit that are written without an exponent. -/
  plainFrom : Option Int
  plainTo : Option Int
  /-- Whether a whole number written without an exponent ends in `.0`. -/
  pointZero : Bool

/-- Every number is written without an exponent, and whole numbers without a point. -/
def plain : Layout := ⟨none, none, false⟩

/-- Numbers from 10^-5 up to 10^16 are written without an exponent and always with a point. -/
def structured : Layout := ⟨some (-5), some 15, true⟩

def zeros (n : Nat) : List Char := List.replicate n '0'

def Decimal.positional (d : Decimal) (pointZero : Bool) : List Char :=
  let count : Int := d.digits.length
  if d.leading < 0 then '0' :: '.' :: (zeros (-d.leading - 1).toNat ++ d.digits)
  else if count ≤ d.leading + 1 then
    d.digits ++ zeros (d.leading + 1 - count).toNat ++ (if pointZero then ['.', '0'] else [])
  else
    let whole := (d.leading + 1).toNat
    d.digits.take whole ++ '.' :: d.digits.drop whole

/-- One digit before the point, and an exponent with a sign. -/
def Decimal.scientific (d : Decimal) : List Char :=
  let fraction := match d.digits.drop 1 with
    | [] => []
    | rest => '.' :: rest
  let sign := if d.leading < 0 then '-' else '+'
  d.digits.take 1 ++ fraction ++ 'e' :: sign :: Nat.toDigits 10 d.leading.natAbs

def render (layout : Layout) (x : Binary64) : String :=
  let d := shortest x
  let fits :=
    (layout.plainFrom.all fun low => low ≤ d.leading) &&
    (layout.plainTo.all fun high => d.leading ≤ high)
  let body := if fits then d.positional layout.pointZero else d.scientific
  String.ofList (if x.negative then '-' :: body else body)

/-- The number rounded to a given count of places after the point, a tie going to the even digit. -/
def fixed (places : Nat) (x : Binary64) : String :=
  let (num, den) := divPower (x.significand * Nat.pow 10 places) 1 (-x.exponent)
  let rounded := roundQuotient num den
  let digits := Nat.toDigits 10 rounded
  let padded := zeros (places + 1 - digits.length) ++ digits
  let whole := padded.take (padded.length - places)
  let fraction := padded.drop (padded.length - places)
  let body := if places = 0 then whole else whole ++ '.' :: fraction
  String.ofList (if x.negative then '-' :: body else body)

end ScriptLint.Binary64
