import ScriptLint.Proofs.Text.Lines

/-!
# Line ends

A line feed ends a line, and so does a carriage return; the two together are one end of a line and
not two (`Text.IsLineEnd`). `lineEnds` lists the spans of these marks, in order and no other ones
(`mem_lineEnds_iff`), and the lines of a text start at its front and behind each of them
(`starts_eq`).
-/

namespace ScriptLint

namespace Text

/-- Whether what lies between two parts of a text is a line end: a carriage return with its line
feed, or one of them on its own. -/
inductive IsLineEnd : (before mark behind : Text) → Prop where
  | both (before behind : Text) : IsLineEnd before ['\r', '\n'] behind
  | feed {before : Text} (alone : before.getLast? ≠ some '\r') (behind : Text) :
      IsLineEnd before ['\n'] behind
  | carriage (before : Text) {behind : Text} (alone : behind.head? ≠ some '\n') :
      IsLineEnd before ['\r'] behind

variable {before mark behind : Text} {c : Char}

theorem size_both (t : Text) : size ('\r' :: '\n' :: t) = 2 + size t := by
  simp only [size_cons, ← Nat.add_assoc]
  rfl

/-- A character in front of the text before a mark matters only if it is a return right before a
feed. -/
theorem isLineEnd_cons_iff (apart : ¬ (before = [] ∧ c = '\r' ∧ mark = ['\n'])) :
    IsLineEnd (c :: before) mark behind ↔ IsLineEnd before mark behind := by
  constructor
  · intro ends
    cases ends with
    | both => exact .both before behind
    | carriage alone => exact .carriage before alone
    | feed alone =>
      refine .feed (fun last => alone ?_) behind
      rw [List.getLast?_cons, last, Option.getD_some]
  · intro ends
    cases ends with
    | both => exact .both (c :: before) behind
    | carriage alone => exact .carriage (c :: before) alone
    | feed alone =>
      refine .feed (fun last => ?_) behind
      cases before with
      | nil => exact apart ⟨rfl, by simpa using last, rfl⟩
      | cons d before => exact alone (by simpa [List.getLast?_cons_cons] using last)

end Text

/-- Whether a span, counted from the offset of a text, is that of a line end. -/
def Span.EndsLine (span : Span) (offset : Nat) (t : Text) : Prop :=
  ∃ before mark behind, t = before ++ mark ++ behind ∧ Text.IsLineEnd before mark behind ∧
    span = ⟨offset + Text.size before, offset + Text.size before + Text.size mark⟩

open Text (IsLineEnd isLineBreak)

namespace Span

variable {span : Span} {offset : Nat} {t cs : Text} {c : Char}

/-- The line ends of a text that starts with a return and its feed. -/
theorem endsLine_both_iff : span.EndsLine offset ('\r' :: '\n' :: cs) ↔
    span = ⟨offset, offset + 2⟩ ∨ span.EndsLine (offset + 2) cs := by
  constructor
  · rintro ⟨before, mark, behind, eq, ends, rfl⟩
    cases before with
    | nil =>
      left
      cases ends with
      | both => rfl
      | feed alone => exact absurd (List.cons.inj eq).1 (by decide)
      | carriage alone =>
        obtain ⟨-, rfl⟩ := List.cons.inj eq
        exact absurd rfl alone
    | cons d before =>
      obtain ⟨first, tail⟩ := List.cons.inj eq
      subst first
      cases before with
      | nil =>
        cases ends with
        | both => exact absurd (List.cons.inj tail).1 (by decide)
        | feed alone => exact absurd rfl alone
        | carriage alone => exact absurd (List.cons.inj tail).1 (by decide)
      | cons e before =>
        right
        obtain ⟨second, rest⟩ := List.cons.inj tail
        subst second
        have ends' : IsLineEnd before mark behind :=
          (Text.isLineEnd_cons_iff (by simp)).1 ((Text.isLineEnd_cons_iff (by simp)).1 ends)
        exact ⟨before, mark, behind, rest, ends', by rw [Text.size_both, ← Nat.add_assoc]⟩
  · rintro (rfl | ⟨before, mark, behind, rfl, ends, rfl⟩)
    · exact ⟨[], ['\r', '\n'], cs, rfl, .both [] cs, rfl⟩
    · have ends' : IsLineEnd ('\r' :: '\n' :: before) mark behind :=
        (Text.isLineEnd_cons_iff (by simp)).2 ((Text.isLineEnd_cons_iff (by simp)).2 ends)
      exact ⟨'\r' :: '\n' :: before, mark, behind, rfl, ends', by
        rw [Text.size_both, ← Nat.add_assoc]⟩

/-- The line ends of a text whose first character is no return before a feed. -/
theorem endsLine_cons_iff (apart : ∀ ds, c = '\r' → cs = '\n' :: ds → False) :
    span.EndsLine offset (c :: cs) ↔
      (isLineBreak c = true ∧ span = ⟨offset, offset + 1⟩) ∨
        span.EndsLine (offset + c.utf8Size) cs := by
  constructor
  · rintro ⟨before, mark, behind, eq, ends, rfl⟩
    cases before with
    | nil =>
      left
      cases ends with
      | both =>
        obtain ⟨rfl, rfl⟩ := List.cons.inj eq
        exact (apart behind rfl rfl).elim
      | feed alone =>
        obtain ⟨rfl, -⟩ := List.cons.inj eq
        exact ⟨rfl, rfl⟩
      | carriage alone =>
        obtain ⟨rfl, -⟩ := List.cons.inj eq
        exact ⟨rfl, rfl⟩
    | cons d before =>
      right
      obtain ⟨rfl, rfl⟩ := List.cons.inj eq
      have split : ¬ (before = [] ∧ c = '\r' ∧ mark = ['\n']) := by
        rintro ⟨rfl, first, rfl⟩
        exact apart behind first rfl
      exact ⟨before, mark, behind, rfl, (Text.isLineEnd_cons_iff split).1 ends, by
        rw [Text.size_cons, ← Nat.add_assoc]⟩
  · rintro (⟨breaks, rfl⟩ | ⟨before, mark, behind, rfl, ends, rfl⟩)
    · rcases (by simpa [isLineBreak] using breaks : c = '\n' ∨ c = '\r') with rfl | rfl
      · exact ⟨[], ['\n'], cs, rfl, .feed (by simp) cs, rfl⟩
      · have alone : cs.head? ≠ some '\n' := by
          intro head
          obtain ⟨ds, rfl⟩ := List.head?_eq_some_iff.1 head
          exact apart ds rfl rfl
        exact ⟨[], ['\r'], cs, rfl, .carriage [] alone, rfl⟩
    · have split : ¬ (before = [] ∧ c = '\r' ∧ mark = ['\n']) := by
        rintro ⟨rfl, first, rfl⟩
        exact apart behind first rfl
      exact ⟨c :: before, mark, behind, rfl, (Text.isLineEnd_cons_iff split).2 ends, by
        rw [Text.size_cons, ← Nat.add_assoc]⟩

end Span

namespace LineTable

variable {offset : Nat} {t : Text} {span : Span}

/-- The spans of the line ends of a text that starts at `offset`. -/
def lineEnds (offset : Nat) : Text → List Span
  | '\r' :: '\n' :: cs => ⟨offset, offset + 2⟩ :: lineEnds (offset + 2) cs
  | c :: cs =>
    if isLineBreak c then ⟨offset, offset + 1⟩ :: lineEnds (offset + 1) cs
    else lineEnds (offset + c.utf8Size) cs
  | [] => []

theorem utf8Size_of_isLineBreak {c : Char} (breaks : isLineBreak c = true) : c.utf8Size = 1 := by
  rcases (by simpa [isLineBreak] using breaks : c = '\n' ∨ c = '\r') with rfl | rfl <;> rfl

theorem mem_lineEnds_iff : span ∈ lineEnds offset t ↔ span.EndsLine offset t := by
  fun_induction lineEnds offset t with
  | case1 offset cs ih => rw [List.mem_cons, ih, Span.endsLine_both_iff]
  | case2 offset c cs apart breaks ih =>
    rw [List.mem_cons, ih, Span.endsLine_cons_iff apart, utf8Size_of_isLineBreak breaks]
    simp [breaks]
  | case3 offset c cs apart none ih =>
    rw [ih, Span.endsLine_cons_iff apart]
    simp [none]
  | case4 offset =>
    constructor
    · intro mem
      cases mem
    · rintro ⟨before, mark, behind, eq, ends, -⟩
      cases ends <;> simp at eq

theorem stops_lineEnds (offset : Nat) (t : Text) :
    (lineEnds offset t).map Span.stop = startsFrom offset t := by
  fun_induction lineEnds offset t with
  | case1 offset cs ih => rw [List.map_cons, ih, startsFrom]
  | case2 offset c cs apart breaks ih =>
    rw [List.map_cons, ih, startsFrom.eq_2 _ _ _ apart, if_pos breaks]
  | case3 offset c cs apart none ih => rw [ih, startsFrom.eq_2 _ _ _ apart, if_neg none]
  | case4 offset => rfl

/-- The lines of a text start at its front and where a line end stops. -/
theorem starts_eq (t : Text) : (ofText t).starts = 0 :: (lineEnds 0 t).map Span.stop := by
  rw [stops_lineEnds, ofText]

theorem start_lt_stop (mem : span ∈ lineEnds offset t) : offset ≤ span.start ∧ span.start < span.stop := by
  obtain ⟨before, mark, behind, -, ends, rfl⟩ := mem_lineEnds_iff.1 mem
  have wide : 1 ≤ Text.size mark := by cases ends <;> decide
  constructor
  · exact Nat.le_add_right offset _
  · dsimp only
    omega

/-- Line ends are listed in order, and no two of them share a byte. -/
theorem lineEnds_ascend (offset : Nat) (t : Text) :
    (lineEnds offset t).Pairwise fun a b => a.stop ≤ b.start := by
  fun_induction lineEnds offset t with
  | case1 offset cs ih => exact List.pairwise_cons.2 ⟨fun span mem => (start_lt_stop mem).1, ih⟩
  | case2 offset c cs apart breaks ih =>
    exact List.pairwise_cons.2 ⟨fun span mem => (start_lt_stop mem).1, ih⟩
  | case3 offset c cs apart none ih => exact ih
  | case4 offset => exact .nil

/-- The starts of lines strictly increase. -/
theorem starts_increase (t : Text) : (ofText t).starts.Pairwise (· < ·) := by
  rw [starts_eq]
  refine List.pairwise_cons.2 ⟨fun stop mem => ?_, List.pairwise_map.2 ?_⟩
  · obtain ⟨span, ends, rfl⟩ := List.mem_map.1 mem
    have := start_lt_stop ends
    omega
  · refine (lineEnds_ascend 0 t).imp_of_mem fun {a b} _ mem le => ?_
    have := start_lt_stop mem
    omega

/-- A line starts between two parts of the text. -/
theorem exists_split_of_mem_starts {start : Nat} (mem : start ∈ (ofText t).starts) :
    ∃ front behind, t = front ++ behind ∧ Text.size front = start := by
  rw [starts_eq] at mem
  rcases List.mem_cons.1 mem with rfl | later
  · exact ⟨[], t, rfl, rfl⟩
  · obtain ⟨span, ends, rfl⟩ := List.mem_map.1 later
    obtain ⟨before, mark, behind, rfl, -, rfl⟩ := mem_lineEnds_iff.1 ends
    exact ⟨before ++ mark, behind, rfl, by rw [Text.size_append, Nat.zero_add]⟩

end LineTable

end ScriptLint
