/-!
# Words

The whole numbers that fit into a number of bits, with or without a sign.
-/

namespace ScriptLint.Word

/-- How many numbers fit into so many bits. -/
def count (bits : Nat) : Nat := Nat.pow 2 bits

/-- A number that fits without a sign. -/
def isUnsigned (bits : Nat) (n : Int) : Bool := 0 ≤ n && n < (count bits : Int)

/-- A number that fits with a sign, which takes one of the bits. -/
def isSigned (bits : Nat) (n : Int) : Bool :=
  -(count (bits - 1) : Int) ≤ n && n < (count (bits - 1) : Int)

end ScriptLint.Word
