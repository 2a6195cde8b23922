/-!
# Texts and byte offsets

A text is the list of its characters. Offsets into a text count UTF-8 bytes, so an offset may fall
inside a character; such an offset splits nothing.

* `split?` cuts a text at an offset, and is undefined inside a character and past the end;
* `slice?` and `between` take the characters between two offsets;
* `split?_append` says that a cut loses nothing, `size_append` that sizes add up.
-/

namespace ScriptLint

abbrev Text := List Char

namespace Text

/-- The number of bytes of the text in UTF-8. -/
def size : Text → Nat
  | [] => 0
  | c :: cs => c.utf8Size + size cs

@[simp] theorem size_nil : size [] = 0 := rfl

@[simp] theorem size_cons (c : Char) (cs : Text) : size (c :: cs) = c.utf8Size + size cs := rfl

@[simp] theorem size_append (s t : Text) : size (s ++ t) = size s + size t := by
  induction s with
  | nil => simp
  | cons c cs ih => simp [ih, Nat.add_assoc]

/-- The characters before and after an offset. -/
def split? : Text → Nat → Option (Text × Text)
  | cs, 0 => some ([], cs)
  | [], _ + 1 => none
  | c :: cs, n + 1 =>
    if c.utf8Size ≤ n + 1 then
      (split? cs (n + 1 - c.utf8Size)).map fun cut => (c :: cut.1, cut.2)
    else none

theorem split?_append {t before after : Text} {n : Nat} (h : split? t n = some (before, after)) :
    before ++ after = t ∧ size before = n := by
  induction t generalizing n before after with
  | nil =>
    cases n with
    | zero => simp only [split?, Option.some.injEq, Prod.mk.injEq] at h; simp [← h.1, ← h.2]
    | succ n => simp [split?] at h
  | cons c cs ih =>
    cases n with
    | zero => simp only [split?, Option.some.injEq, Prod.mk.injEq] at h; simp [← h.1, ← h.2]
    | succ n =>
      simp only [split?] at h
      split at h
      · rename_i fits
        obtain ⟨cut, found, eq⟩ := Option.map_eq_some_iff.1 h
        obtain ⟨rfl, rfl⟩ := Prod.mk.inj eq
        have := ih found
        refine ⟨by simp [this.1], ?_⟩
        simp only [size_cons, this.2]
        omega
      · cases h

/-- Whether an offset lies between two characters of the text, or at an end. -/
def isBoundary (t : Text) (n : Nat) : Bool := (split? t n).isSome

/-- The characters from `start` up to `stop`, if both are boundaries in this order. -/
def slice? (t : Text) (start stop : Nat) : Option Text :=
  if start ≤ stop then
    (split? t start).bind fun cut => (split? cut.2 (stop - start)).map (·.1)
  else none

/-- The characters between two offsets, none if they cut out no stretch of the text. -/
def between (t : Text) (start stop : Nat) : Text := (slice? t start stop).getD []

/-- The parts of a text between the occurrences of a character. -/
def splitAt (separator : Char) : Text → List Text
  | [] => [[]]
  | c :: cs =>
    match splitAt separator cs with
    | [] => [[c]]
    | part :: parts => if c = separator then [] :: part :: parts else (c :: part) :: parts

end Text

/-- A range of byte offsets; `stop` is excluded. Nothing forces the ends to be in order. -/
structure Span where
  start : Nat
  stop : Nat
  deriving DecidableEq, Repr, Inhabited

namespace Span

def length (s : Span) : Nat := s.stop - s.start

/-- The offsets as `start..stop`. -/
def render (s : Span) : String := toString s.start ++ ".." ++ toString s.stop

/-- Spans are ordered by their start, then by their end. -/
def le (a b : Span) : Bool :=
  a.start < b.start || (a.start == b.start && a.stop ≤ b.stop)

end Span

end ScriptLint
