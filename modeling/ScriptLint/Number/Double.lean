import ScriptLint.Number.Shortest

/-!
# Numbers that need not be finite

The format also has two infinite numbers and values that are no numbers. All of the latter are held as
one. They are neither less nor greater than anything.
-/

namespace ScriptLint

inductive Double where
  | finite (x : Binary64)
  | infinite (negative : Bool)
  | nan
  deriving DecidableEq, Repr

namespace Double

instance : Coe Binary64 Double := ⟨finite⟩

def lt : Double → Double → Bool
  | finite x, finite y => x.lt y
  | finite _, infinite negative => !negative
  | infinite negative, finite _ => negative
  | infinite negative, infinite negative' => negative && !negative'
  | nan, _ | _, nan => false

def render (layout : Binary64.Layout) : Double → String
  | finite x => x.render layout
  | infinite negative => if negative then "-inf" else "inf"
  | nan => "NaN"

end Double

end ScriptLint
