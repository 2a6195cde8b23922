import ScriptLint.Diff.Script

/-!
# Sliding changes together

An addition whose last line equals the line before it can slide up by that line, and down if its
first line equals the line behind it, without a change to what the script does. Sliding brings
changes together: equal kinds that meet become one, and a removal and an addition that meet change
places.

Every stretch carries the line numbers at which it was found. Sliding adjusts them, changing places
does not.
-/

namespace ScriptLint.Diff

/-- A piece with the numbers of the old and the new line at which it starts. -/
structure Stretch where
  fate : Fate
  lines : List Text
  oldAt : Nat
  newAt : Nat
  deriving DecidableEq, Repr

namespace Stretch

/-- The pieces of a script, numbered from two lines on. -/
def number (oldAt newAt : Nat) : List Piece → List Stretch
  | [] => []
  | p :: ps =>
    ⟨p.fate, p.lines, oldAt, newAt⟩ ::
      number (if p.fate = .added then oldAt else oldAt + p.lines.length)
        (if p.fate = .removed then newAt else newAt + p.lines.length) ps

/-- More lines at the end. -/
def extend (s : Stretch) (lines : List Text) : Stretch := { s with lines := s.lines ++ lines }

/-- More lines at the front. -/
def precede (s : Stretch) (lines : List Text) : Stretch :=
  ⟨s.fate, lines ++ s.lines, s.oldAt - lines.length, s.newAt - lines.length⟩

/-- The stretch without some lines at its end. -/
def dropEnd (s : Stretch) (count : Nat) : Stretch :=
  { s with lines := s.lines.take (s.lines.length - count) }

/-- The stretch without some lines at its front. -/
def dropFront (s : Stretch) (count : Nat) : Stretch :=
  ⟨s.fate, s.lines.drop count, s.oldAt + count, s.newAt + count⟩

/-- The change slid up over lines that equal its last ones. -/
def slideUp (s : Stretch) (lines : List Text) : Stretch :=
  ⟨s.fate, lines ++ s.lines.take (s.lines.length - lines.length), s.oldAt - lines.length,
    s.newAt - lines.length⟩

/-- The change slid down over lines that equal its first ones. -/
def slideDown (s : Stretch) (lines : List Text) : Stretch :=
  ⟨s.fate, s.lines.drop lines.length ++ lines, s.oldAt + lines.length, s.newAt + lines.length⟩

end Stretch

/-- A list of stretches with one of them in focus; those before it come nearest first. -/
structure Focus where
  before : List Stretch
  current : Stretch
  after : List Stretch

namespace Focus

/-- The lines that a slide passed over stay behind the change. -/
def keepBehind (oldAt newAt : Nat) (lines : List Text) : List Stretch → List Stretch
  | next :: after =>
    if next.fate = .kept then next.precede lines :: after
    else ⟨.kept, lines, oldAt, newAt⟩ :: next :: after
  | [] => [⟨.kept, lines, oldAt, newAt⟩]

/-- The lines that a slide passed over stay before the change. -/
def keepBefore (oldAt newAt : Nat) (lines : List Text) : List Stretch → List Stretch
  | last :: before =>
    if last.fate = .kept then last.extend lines :: before
    else ⟨.kept, lines, oldAt, newAt⟩ :: last :: before
  | [] => [⟨.kept, lines, oldAt, newAt⟩]

/-- The stretches before the one in focus without some lines at the end. -/
def retreat (last : Stretch) (count : Nat) (before : List Stretch) : List Stretch :=
  if last.lines.length ≤ count then before else last.dropEnd count :: before

/-- The stretches behind the one in focus without some lines at the front. -/
def advance (next : Stretch) (count : Nat) (after : List Stretch) : List Stretch :=
  if next.lines.length ≤ count then after else next.dropFront count :: after

/-- Slides the change in focus up as far as it goes. The bound counts the stretches and lines that
are before it. -/
def up : Nat → Focus → Focus
  | 0, f => f
  | bound + 1, f =>
    match f.before with
    | [] => f
    | last :: before =>
      if f.current.fate = last.fate then
        up bound ⟨before, last.extend f.current.lines, f.after⟩
      else if last.fate = .kept then
        let count := shared last.lines.reverse f.current.lines.reverse
        if f.current.fate = .added ∧ 0 < count then
          let passed := last.lines.drop (last.lines.length - count)
          let after := keepBehind (last.oldAt + last.lines.length - count)
            (f.current.newAt + f.current.lines.length - count) passed f.after
          up bound ⟨retreat last count before, f.current.slideUp passed, after⟩
        else f
      else up bound ⟨before, f.current, last :: f.after⟩

/-- Slides the change in focus down as far as it goes. The bound counts the stretches and lines that
are behind it. -/
def down : Nat → Focus → Focus
  | 0, f => f
  | bound + 1, f =>
    match f.after with
    | [] => f
    | next :: after =>
      if f.current.fate = next.fate then
        down bound ⟨f.before, f.current.extend next.lines, after⟩
      else if next.fate = .kept then
        let count := shared next.lines f.current.lines
        if f.current.fate = .added ∧ 0 < count then
          let passed := next.lines.take count
          let before := keepBefore next.oldAt f.current.newAt passed f.before
          down bound ⟨before, f.current.slideDown passed, advance next count after⟩
        else f
      else down bound ⟨next :: f.before, f.current, after⟩

def weight (stretches : List Stretch) : Nat :=
  stretches.foldl (fun total s => total + s.lines.length + 1) 0

/-- The change in focus slid up and then down. -/
def settle (f : Focus) : Focus :=
  let f := up (weight f.before) f
  down (weight f.after) f

end Focus

/-- Slides all changes of one fate, from the first to the last. -/
def slideAll (fate : Fate) : (bound : Nat) → (before after : List Stretch) → List Stretch
  | 0, before, after => before.reverse ++ after
  | _ + 1, before, [] => before.reverse
  | bound + 1, before, current :: after =>
    if current.fate = fate then
      let f := Focus.settle ⟨before, current, after⟩
      slideAll fate bound (f.current :: f.before) f.after
    else slideAll fate bound (current :: before) after

/-- First the removals are slid, then the additions. -/
def compact (stretches : List Stretch) : List Stretch :=
  let bound := Focus.weight stretches
  slideAll .added bound [] (slideAll .removed bound [] stretches)

end ScriptLint.Diff
