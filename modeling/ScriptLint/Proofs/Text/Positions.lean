import Mathlib.Data.Nat.PSub
import ScriptLint.Proofs.Runs
import ScriptLint.Proofs.Text.LineEnds
import ScriptLint.Proofs.Text.Stretch

/-!
# Lines and columns of offsets

The line of an offset counts the line ends up to it (`line_eq_countP`), and its column the characters
from the start of that line (`position_of_parts`), so a place between two characters is found again
from its line and column, and later places have later positions (`position_invertible`).

An offset inside a character has a line too, but its column counts bytes (`column_of_inside`): such
columns are comparable with one another and not with the others.
-/

namespace ScriptLint

/-- Positions are ordered by their lines, and in one line by their columns. -/
instance : LT Position :=
  ⟨fun p q => p.line < q.line ∨ p.line = q.line ∧ p.column < q.column⟩

instance : LE Position :=
  ⟨fun p q => p.line < q.line ∨ p.line = q.line ∧ p.column ≤ q.column⟩

instance (p q : Position) : Decidable (p < q) :=
  inferInstanceAs (Decidable (p.line < q.line ∨ p.line = q.line ∧ p.column < q.column))

instance (p q : Position) : Decidable (p ≤ q) :=
  inferInstanceAs (Decidable (p.line < q.line ∨ p.line = q.line ∧ p.column ≤ q.column))

namespace Position

theorem lt_iff {p q : Position} :
    p < q ↔ p.line < q.line ∨ p.line = q.line ∧ p.column < q.column := Iff.rfl

theorem le_iff {p q : Position} :
    p ≤ q ↔ p.line < q.line ∨ p.line = q.line ∧ p.column ≤ q.column := Iff.rfl

theorem le_refl (p : Position) : p ≤ p := .inr ⟨rfl, Nat.le_refl _⟩

theorem le_of_lt {p q : Position} (lt : p < q) : p ≤ q := by
  rw [lt_iff] at lt
  rw [le_iff]
  omega

end Position

/-- The offset that lies so many characters behind another one, if the text is that long. -/
def Text.advance? (t : Text) (offset count : Nat) : Option Nat :=
  (Text.split? t offset).bind fun cut =>
    if count ≤ cut.2.length then some (offset + Text.size (cut.2.take count)) else none

theorem Text.advance?_of_parts (front inside behind : Text) :
    Text.advance? (front ++ inside ++ behind) (Text.size front) inside.length =
      some (Text.size (front ++ inside)) := by
  simp [Text.advance?, Text.split?_size]

namespace LineTable

variable {t : Text} {offset other : Nat}

/-- In an increasing list, the numbers up to a bound come first. -/
theorem takeWhile_eq_filter {ns : List Nat} (increase : ns.Pairwise (· < ·)) (bound : Nat) :
    ns.takeWhile (fun n => n ≤ bound) = ns.filter fun n => n ≤ bound := by
  apply takeWhile_eq_filter_iff.2
  rintro earlier n later rfl beyond m mem
  have less := (List.pairwise_cons.1 (List.pairwise_append.1 increase).2.1).1 m mem
  rw [decide_eq_false_iff_not] at beyond ⊢
  omega

/-- The starts up to an offset are those that are not greater. -/
theorem startsUpTo_eq_filter (t : Text) (offset : Nat) :
    (ofText t).startsUpTo offset = (ofText t).starts.filter fun start => start ≤ offset :=
  takeWhile_eq_filter (starts_increase t) offset

/-- The line of an offset is one more than the number of line ends up to it. -/
theorem line_eq_countP (within : offset ≤ Text.size t) :
    ((ofText t).position t offset).line =
      1 + (lineEnds 0 t).countP fun span => span.stop ≤ offset := by
  have inside : min offset (ofText t).size = offset := Nat.min_eq_left within
  simp only [position, inside, startsUpTo_eq_filter, starts_eq]
  rw [List.filter_cons_of_pos (by simp), List.length_cons, ← List.countP_eq_length_filter,
    List.countP_map, Nat.add_comm]
  rfl

/-- A line does not lie before that of an earlier offset. -/
theorem line_le_line (le : offset ≤ other) (within : other ≤ Text.size t) :
    ((ofText t).position t offset).line ≤ ((ofText t).position t other).line := by
  rw [line_eq_countP (Nat.le_trans le within), line_eq_countP within]
  refine Nat.add_le_add_left (List.countP_mono_left fun span _ early => ?_) 1
  simp only [decide_eq_true_eq] at early ⊢
  omega

/-- The line of an offset starts at a place between characters, at the offset or before it, and is
found by its number; from there the column is counted. -/
theorem exists_lineStart (within : offset ≤ Text.size t) :
    ∃ front behind, t = front ++ behind ∧ Text.size front ≤ offset ∧
      (ofText t).lineStart? ((ofText t).position t offset).line = some (Text.size front) ∧
      ((ofText t).position t offset).column =
        ((Text.slice? t (Text.size front) offset).map List.length).getD (offset - Text.size front) +
          1 := by
  have inside : min offset (ofText t).size = offset := Nat.min_eq_left within
  obtain ⟨n, count⟩ : ∃ n, ((ofText t).startsUpTo offset).length = n + 1 := ⟨_, rfl⟩
  obtain ⟨start, last⟩ : ∃ start, ((ofText t).startsUpTo offset)[n]? = some start :=
    ⟨_, List.getElem?_eq_getElem (by omega)⟩
  have among := List.mem_of_getElem? last
  rw [startsUpTo_eq_filter, List.mem_filter, decide_eq_true_eq] at among
  obtain ⟨front, behind, joined, rfl⟩ := exists_split_of_mem_starts among.1
  refine ⟨front, behind, joined, among.2, ?_, ?_⟩
  · -- The starts up to the offset are the first ones, so the last of them has their number.
    obtain ⟨later, whole⟩ : (ofText t).startsUpTo offset <+: (ofText t).starts :=
      List.takeWhile_prefix _
    simp only [position, inside, count, lineStart?]
    rw [← whole, List.getElem?_append_left (by omega), last]
  · simp only [position, inside]
    rw [List.getLast?_eq_getElem?, count, Nat.add_sub_cancel, last, Option.getD_some]

/-- A place between two characters is told by the parts of the text: what lies before its line, and
what lies in the line before it. -/
theorem position_of_parts (boundary : t.isBoundary offset = true) :
    ∃ front inside behind, t = front ++ inside ++ behind ∧ offset = Text.size (front ++ inside) ∧
      (ofText t).lineStart? ((ofText t).position t offset).line = some (Text.size front) ∧
      ((ofText t).position t offset).column = inside.length + 1 := by
  obtain ⟨before, behind, rfl, rfl⟩ := Text.isBoundary_iff.1 boundary
  have within : Text.size before ≤ Text.size (before ++ behind) := by
    rw [Text.size_append]
    exact Nat.le_add_right _ _
  obtain ⟨front, rest, joined, le, found, column⟩ := exists_lineStart within
  obtain ⟨inside, rfl, -⟩ := Text.exists_between joined.symm le
  refine ⟨front, inside, behind, rfl, rfl, found, ?_⟩
  rw [column, Text.size_append, Text.slice?_of_parts]
  rfl

/-- The column of an offset inside a character counts the bytes from the start of its line. -/
theorem column_of_inside (inside : t.isBoundary offset = false) (within : offset ≤ Text.size t) :
    ∃ start, start ≤ offset ∧
      (ofText t).lineStart? ((ofText t).position t offset).line = some start ∧
      ((ofText t).position t offset).column = offset - start + 1 := by
  obtain ⟨front, behind, -, le, found, column⟩ := exists_lineStart within
  refine ⟨Text.size front, le, found, ?_⟩
  have uncut : Text.slice? t (Text.size front) offset = none := by
    refine Option.eq_none_iff_forall_ne_some.2 fun part cut => ?_
    rw [Text.isBoundary_of_slice? cut] at inside
    cases inside
  rw [column, uncut]
  rfl

/-- Later places between characters have later positions. -/
theorem position_lt_position (boundary : t.isBoundary offset = true)
    (boundary' : t.isBoundary other = true) (lt : offset < other) :
    (ofText t).position t offset < (ofText t).position t other := by
  obtain ⟨front, inside, behind, joined, rfl, found, column⟩ := position_of_parts boundary
  obtain ⟨front', inside', behind', joined', rfl, found', column'⟩ := position_of_parts boundary'
  have within : Text.size (front' ++ inside') ≤ Text.size t := by
    rw [joined', Text.size_append (front' ++ inside')]
    exact Nat.le_add_right _ _
  rcases Nat.lt_or_eq_of_le (line_le_line (Nat.le_of_lt lt) within) with before | same
  · exact .inl before
  · right
    refine ⟨same, ?_⟩
    -- In one line, what lies before the first place is a part of what lies before the second.
    rw [same, found', Option.some.injEq] at found
    rw [joined, List.append_assoc, List.append_assoc] at joined'
    obtain ⟨rfl, rest⟩ := Text.append_inj_of_size joined' found.symm
    simp only [Text.size_append] at lt
    obtain ⟨more, rfl, -⟩ := Text.exists_between rest (by omega)
    have some : more ≠ [] := by
      rintro rfl
      simp at lt
    have := List.length_pos_iff.2 some
    rw [column, column', List.length_append]
    omega

/-- The position of an offset by steps that can fail: nothing is taken from a number that is smaller,
and the start of the line is looked up among those that are there. -/
def position? (table : LineTable) (text : Text) (offset : Nat) : Option Position := do
  let offset := min offset table.size
  let line ← (table.startsUpTo offset).length.ppred
  let start ← table.starts[line]?
  let bytes ← offset.psub start
  let before := ((Text.slice? text start offset).map List.length).getD bytes
  return ⟨line + 1, before + 1⟩

/-- No step of looking up a position fails, whatever the offset. -/
theorem position?_eq (t : Text) (offset : Nat) :
    (ofText t).position? t offset = some ((ofText t).position t offset) := by
  have within : min offset (ofText t).size ≤ Text.size t := Nat.min_le_right _ _
  have clamped : (ofText t).position t (min offset (ofText t).size) = (ofText t).position t offset := by
    simp only [position, Nat.min_assoc, Nat.min_self]
  obtain ⟨front, behind, -, le, found, column⟩ := exists_lineStart within
  obtain ⟨n, count⟩ :
      ∃ n, ((ofText t).startsUpTo (min offset (ofText t).size)).length = n + 1 := ⟨_, rfl⟩
  have line : ((ofText t).position t offset).line = n + 1 := count
  rw [clamped, line] at found
  rw [clamped] at column
  have start : (ofText t).starts[n]? = some (Text.size front) := found
  simp only [position?, count, Nat.ppred, Option.bind_eq_bind, Option.bind_some, start,
    Nat.psub_eq_sub le, Option.pure_def]
  rw [← column, ← line]

/-- Positions are exact and can be turned back. The line ends of a text, in order, are what lines are
counted by; the starts of lines increase; a place between characters has the line that starts so many
characters before it as its column says; later places have later positions. Looking up a position
never fails, and past the end it is that of the end. -/
theorem position_invertible (t : Text) :
    let table := ofText t
    let place := table.position t
    (∃ ends : List Span, (∀ span, span ∈ ends ↔ span.EndsLine 0 t) ∧
        ends.Pairwise (fun a b => a.stop ≤ b.start) ∧
        table.starts = 0 :: ends.map Span.stop ∧ table.count = 1 + ends.length ∧
        ∀ o, t.isBoundary o = true →
          (place o).line = 1 + ends.countP fun span => span.stop ≤ o) ∧
      table.starts.Pairwise (· < ·) ∧
      (∀ o, t.isBoundary o = true → ∃ start inside,
        table.lineStart? (place o).line = some start ∧ t.slice? start o = some inside ∧
          (place o).column = 1 + inside.length ∧
          t.advance? start ((place o).column - 1) = some o) ∧
      (∀ o o', t.isBoundary o = true → t.isBoundary o' = true → o < o' → place o < place o') ∧
      (∀ o, table.position? t o = some (place o)) ∧
      ∀ o, Text.size t ≤ o → place o = place (Text.size t) := by
  intro table place
  refine ⟨⟨lineEnds 0 t, fun _ => mem_lineEnds_iff, lineEnds_ascend 0 t, starts_eq t, ?_, ?_⟩,
    starts_increase t, ?_, fun _ _ => position_lt_position, position?_eq t, ?_⟩
  · show (ofText t).starts.length = _
    rw [starts_eq, List.length_cons, List.length_map, Nat.add_comm]
  · intro o boundary
    exact line_eq_countP (Text.le_size_of_isBoundary boundary)
  · intro o boundary
    obtain ⟨front, inside, behind, rfl, rfl, found, column⟩ := position_of_parts boundary
    refine ⟨Text.size front, inside, found, ?_, column.trans (Nat.add_comm _ _), ?_⟩
    · rw [Text.size_append, Text.slice?_of_parts]
    · show Text.advance? _ _ (((ofText _).position _ _).column - 1) = _
      rw [column, Nat.add_sub_cancel, Text.advance?_of_parts]
  · intro o beyond
    show (ofText t).position t o = (ofText t).position t (Text.size t)
    simp only [position, ofText, Nat.min_eq_right beyond, Nat.min_self]

end LineTable

end ScriptLint
