import ScriptLint.Diff.Op

/-!
# Line scripts

The search for changes that the program is run with. A script turns one list of lines into another: a
list of pieces, each of them kept, removed or added. `script` looks for a script of few changes: what
two lists share at their ends is kept, and what lies between is divided at a point in the middle of a
shortest path of changes, found by searching from both ends at once.
-/

namespace ScriptLint.Diff

/-- A run of lines with one fate. -/
structure Piece where
  fate : Fate
  lines : List Text
  deriving DecidableEq, Repr

/-- The number of lines that two lists share at the front. -/
def shared : List Text → List Text → Nat
  | a :: as, b :: bs => if a = b then shared as bs + 1 else 0
  | _, _ => 0

theorem take_shared (as bs : List Text) : as.take (shared as bs) = bs.take (shared as bs) := by
  fun_induction shared as bs with
  | case1 _ _ _ ih => simp [ih]
  | case2 => simp
  | case3 => simp

/-! ## The middle of a shortest path -/

/-- How many old lines the paths of a search have used up, by diagonal. A diagonal is the number of
old lines used up less the number of new ones. -/
structure Frontier where
  middle : Nat
  reach : Array Nat

namespace Frontier

def start (bound : Nat) : Frontier := ⟨bound + 1, Array.replicate (2 * bound + 3) 0⟩

def get (f : Frontier) (diagonal : Int) : Nat := f.reach.getD (diagonal + f.middle).toNat 0

def set (f : Frontier) (diagonal : Int) (x : Nat) : Frontier :=
  { f with reach := f.reach.setIfInBounds (diagonal + f.middle).toNat x }

/-- Where a path with one more difference starts on a diagonal: it comes from the neighbour that has
got further. -/
def enter (f : Frontier) (depth : Nat) (diagonal : Int) : Nat :=
  if diagonal = -depth ∨ (diagonal ≠ depth ∧ f.get (diagonal - 1) < f.get (diagonal + 1)) then
    f.get (diagonal + 1)
  else f.get (diagonal - 1) + 1

end Frontier

/-- The diagonals that paths with `depth` differences end on, highest first. -/
def diagonals (depth : Nat) : List Int :=
  (List.range (depth + 1)).map fun (i : Nat) => (depth : Int) - 2 * i

/-- The number of equal lines from two indices on. -/
def runFrom (old new : Array Text) (x y : Nat) : Nat → Nat
  | 0 => 0
  | more + 1 =>
    if x < old.size ∧ y < new.size ∧ old[x]? = new[y]? then runFrom old new (x + 1) (y + 1) more + 1
    else 0

/-- The number of equal lines going back from two indices. -/
def runBefore (old new : Array Text) : (x y : Nat) → Nat
  | x + 1, y + 1 => if old[x]? = new[y]? then runBefore old new x y + 1 else 0
  | _, _ => 0

/-- A search that is over has found a point: how many old and how many new lines lie before it. -/
abbrev Search := Except (Nat × Nat)

/-- One diagonal of the search from the front. It meets the other search, whose paths have one
difference less, only if the two lists differ in length by an odd number. -/
def forward (old new : Array Text) (depth : Nat) (back : Frontier) (front : Frontier)
    (diagonal : Int) : Search Frontier :=
  let delta : Int := old.size - new.size
  let x := front.enter depth diagonal
  let y := (x - diagonal).toNat
  let reached := x + runFrom old new x y old.size
  let front := front.set diagonal reached
  if delta % 2 = 1 ∧ (diagonal - delta).natAbs + 1 ≤ depth ∧
      old.size ≤ reached + back.get (delta - diagonal) then .error (x, y)
  else .ok front

/-- One diagonal of the search from the end. -/
def backward (old new : Array Text) (depth : Nat) (front : Frontier) (back : Frontier)
    (diagonal : Int) : Search Frontier :=
  let delta : Int := old.size - new.size
  let x := back.enter depth diagonal
  let y := (x - diagonal).toNat
  let run := if x < old.size ∧ y < new.size then runBefore old new (old.size - x) (new.size - y) else 0
  let back := back.set diagonal (x + run)
  if delta % 2 = 0 ∧ (diagonal - delta).natAbs ≤ depth ∧
      old.size ≤ x + run + front.get (delta - diagonal) then
    .error (old.size - (x + run), new.size - (y + run))
  else .ok back

/-- All paths with one more difference, from the front and then from the end. -/
def deepen (old new : Array Text) (frontiers : Frontier × Frontier) (depth : Nat) :
    Search (Frontier × Frontier) := do
  let front ← (diagonals depth).foldlM (forward old new depth frontiers.2) frontiers.1
  let back ← (diagonals depth).foldlM (backward old new depth front) frontiers.2
  pure (front, back)

/-- A point on a shortest path, near its middle. -/
def middle? (old new : Array Text) : Option (Nat × Nat) :=
  let bound := (old.size + new.size + 1) / 2
  let start := Frontier.start (bound + 1)
  match (List.range (bound + 1)).foldlM (deepen old new) (start, start) with
  | .error point => some point
  | .ok _ => none

/-- The middle point, if it leaves something on both sides. -/
def divide? (old new : List Text) : Option (Nat × Nat) :=
  (middle? old.toArray new.toArray).filter fun p =>
    0 < p.1 + p.2 ∧ p.1 + p.2 < old.length + new.length

theorem divide?_some {old new : List Text} {x y : Nat} (h : divide? old new = some (x, y)) :
    0 < x + y ∧ x + y < old.length + new.length := by
  have := (Option.filter_eq_some_iff.1 h).2
  simpa using this

/-! ## Scripts -/

/-- Two lists of lines between what they share at their ends. -/
structure Ends where
  front : List Text
  oldInner : List Text
  newInner : List Text
  back : List Text

def ends (old new : List Text) : Ends :=
  let front := shared old new
  let oldRest := old.drop front
  let newRest := new.drop front
  let back := shared oldRest.reverse newRest.reverse
  ⟨old.take front, oldRest.take (oldRest.length - back), newRest.take (newRest.length - back),
    oldRest.drop (oldRest.length - back)⟩

theorem ends_old (old new : List Text) :
    (ends old new).front ++ (ends old new).oldInner ++ (ends old new).back = old := by
  simp only [ends, List.append_assoc, List.take_append_drop]

theorem ends_new (old new : List Text) :
    (ends old new).front ++ (ends old new).newInner ++ (ends old new).back = new := by
  have front := take_shared old new
  have back := take_shared (old.drop (shared old new)).reverse (new.drop (shared old new)).reverse
  rw [List.take_reverse, List.take_reverse, List.reverse_inj] at back
  simp only [ends, List.append_assoc]
  rw [back, List.take_append_drop, front, List.take_append_drop]

theorem ends_old_le (old new : List Text) : (ends old new).oldInner.length ≤ old.length := by
  have := congrArg List.length (ends_old old new)
  simp only [List.length_append] at this
  omega

theorem ends_new_le (old new : List Text) : (ends old new).newInner.length ≤ new.length := by
  have := congrArg List.length (ends_new old new)
  simp only [List.length_append] at this
  omega

/-- A piece, unless it has no lines. -/
def pieceOf (fate : Fate) (lines : List Text) : List Piece :=
  if lines = [] then [] else [⟨fate, lines⟩]

/-- All old lines removed, all new ones added. -/
def exchange (old new : List Text) : List Piece := pieceOf .removed old ++ pieceOf .added new

/-- The pieces between what two lists share at their ends, and these ends. -/
def Ends.around (e : Ends) (inner : List Piece) : List Piece :=
  pieceOf .kept e.front ++ inner ++ pieceOf .kept e.back

def script (old new : List Text) : List Piece :=
  let e := ends old new
  if _settled : e.oldInner = [] ∨ e.newInner = [] then e.around (exchange e.oldInner e.newInner)
  else
    match _point : divide? e.oldInner e.newInner with
    | some (x, y) =>
      e.around (script (e.oldInner.take x) (e.newInner.take y) ++
        script (e.oldInner.drop x) (e.newInner.drop y))
    | none => e.around (exchange e.oldInner e.newInner)
termination_by old.length + new.length
decreasing_by
  all_goals
    have bounds := divide?_some _point
    have old_le := ends_old_le old new
    have new_le := ends_new_le old new
    rw [not_or, ← List.length_eq_zero_iff, ← List.length_eq_zero_iff] at _settled
    simp only [e, List.length_take, List.length_drop] at bounds _settled ⊢
    omega

end ScriptLint.Diff
