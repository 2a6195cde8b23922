import ScriptLint.Text.Basic

/-!
# Stretches of a text

A span cuts a stretch out of a text if its ends lie between characters of the text, in this order.
Cuts are told by the parts of the text, so they need no arithmetic on offsets:

* `split?_size`, `isBoundary_iff`: an offset is a boundary where the text comes in two parts;
* `Span.Cuts`: a span, counted from the offset of a text, cuts a stretch out of it.
-/

namespace ScriptLint

namespace Text

theorem size_pos {t : Text} (some : t ≠ []) : 0 < size t := by
  obtain ⟨c, cs, rfl⟩ := List.exists_cons_of_ne_nil some
  have := Char.utf8Size_pos c
  simp only [size_cons]
  omega

theorem split?_size (s t : Text) : split? (s ++ t) (size s) = some (s, t) := by
  induction s with
  | nil => cases t <;> simp [split?]
  | cons c cs ih =>
    obtain ⟨n, eq⟩ : ∃ n, size (c :: cs) = n + 1 := by
      have := c.utf8Size_pos
      exact ⟨size (c :: cs) - 1, by simp only [size_cons]; omega⟩
    have fits : c.utf8Size ≤ n + 1 := by rw [← eq, size_cons]; omega
    have rest : n + 1 - c.utf8Size = size cs := by rw [← eq, size_cons]; omega
    rw [eq, List.cons_append, split?, if_pos fits, rest, ih]
    rfl

theorem isBoundary_iff {t : Text} {n : Nat} :
    t.isBoundary n = true ↔ ∃ before after, t = before ++ after ∧ n = size before := by
  constructor
  · intro h
    obtain ⟨⟨before, after⟩, cut⟩ := Option.isSome_iff_exists.1 h
    obtain ⟨joined, size⟩ := split?_append cut
    exact ⟨before, after, joined.symm, size.symm⟩
  · rintro ⟨before, after, rfl, rfl⟩
    simp [isBoundary, split?_size]

theorem le_size_of_isBoundary {t : Text} {n : Nat} (boundary : t.isBoundary n = true) :
    n ≤ size t := by
  obtain ⟨before, after, rfl, rfl⟩ := isBoundary_iff.1 boundary
  rw [size_append]
  exact Nat.le_add_right _ _

theorem slice?_of_parts (before inside after : Text) :
    slice? (before ++ inside ++ after) (size before) (size before + size inside) = some inside := by
  have width : size before + size inside - size before = size inside := by omega
  simp [slice?, width, split?_size]

/-- What is cut out of a text between two offsets is a part of it. -/
theorem slice?_eq_some_iff {t inside : Text} {start stop : Nat} :
    slice? t start stop = some inside ↔ ∃ before after, t = before ++ inside ++ after ∧
      start = size before ∧ stop = start + size inside := by
  constructor
  · intro cut
    unfold slice? at cut
    split at cut
    · rename_i le
      obtain ⟨⟨before, rest⟩, first, cut⟩ := Option.bind_eq_some_iff.1 cut
      obtain ⟨⟨taken, after⟩, second, same⟩ := Option.map_eq_some_iff.1 cut
      obtain rfl : taken = inside := same
      obtain ⟨rfl, rfl⟩ := split?_append first
      obtain ⟨rfl, width⟩ := split?_append second
      exact ⟨before, after, by rw [List.append_assoc], rfl, by omega⟩
    · cases cut
  · rintro ⟨before, after, rfl, rfl, rfl⟩
    exact slice?_of_parts before inside after

theorem isBoundary_of_slice? {t inside : Text} {start stop : Nat}
    (cut : slice? t start stop = some inside) : t.isBoundary stop = true := by
  obtain ⟨before, after, rfl, rfl, rfl⟩ := slice?_eq_some_iff.1 cut
  exact isBoundary_iff.2 ⟨before ++ inside, after, rfl, (size_append before inside).symm⟩

/-- Two cuts of a text at one offset are the same. -/
theorem append_inj_of_size {a a' b b' : Text} (joined : a ++ a' = b ++ b') (same : size a = size b) :
    a = b ∧ a' = b' := by
  have cut := split?_size a a'
  rw [joined, same, split?_size b b', Option.some.injEq, Prod.mk.injEq] at cut
  exact ⟨cut.1.symm, cut.2.symm⟩

/-- Of two cuts of a text, the one at the greater offset leaves what is between them and the rest. -/
theorem exists_between {a a' b b' : Text} (joined : a ++ a' = b ++ b') (le : size a ≤ size b) :
    ∃ inside, b = a ++ inside ∧ a' = inside ++ b' := by
  obtain ⟨inside, longer, rest⟩ | ⟨inside, longer, rest⟩ := List.append_eq_append_iff.1 joined
  · exact ⟨inside, longer, rest⟩
  · have empty : inside = [] := by
      cases inside with
      | nil => rfl
      | cons c inside =>
        have := c.utf8Size_pos
        simp only [longer, size_append, size_cons] at le
        omega
    exact ⟨[], by simp_all⟩

/-- A text has as many characters as bytes at most. -/
theorem length_le_size (t : Text) : t.length ≤ size t := by
  induction t with
  | nil => exact Nat.le_refl 0
  | cons c t ih =>
    have := c.utf8Size_pos
    rw [List.length_cons, size_cons]
    omega

end Text

namespace Span

/-- Whether a span cuts a stretch out of a text that starts at an offset. -/
def Cuts (span : Span) (offset : Nat) (t : Text) : Prop :=
  ∃ before inside after, t = before ++ inside ++ after ∧
    span.start = offset + Text.size before ∧ span.stop = span.start + Text.size inside

variable {span : Span} {offset : Nat}

/-- A stretch behind a part of a text is a stretch of the text. -/
theorem Cuts.behind {s t : Text} (h : span.Cuts (offset + Text.size s) t) :
    span.Cuts offset (s ++ t) := by
  obtain ⟨before, inside, after, rfl, start, stop⟩ := h
  refine ⟨s ++ before, inside, after, by simp, ?_, stop⟩
  rw [start, Text.size_append]
  omega

theorem Cuts.within {t : Text} (h : span.Cuts 0 t) :
    span.start ≤ span.stop ∧ span.stop ≤ Text.size t ∧
      t.isBoundary span.start ∧ t.isBoundary span.stop := by
  obtain ⟨before, inside, after, rfl, start, stop⟩ := h
  rw [Nat.zero_add] at start
  refine ⟨by omega, by simp only [Text.size_append]; omega, ?_, ?_⟩
  · exact Text.isBoundary_iff.2 ⟨before, inside ++ after, by simp, start⟩
  · exact Text.isBoundary_iff.2 ⟨before ++ inside, after, rfl, by rw [Text.size_append]; omega⟩

end Span

end ScriptLint
