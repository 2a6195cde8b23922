import ScriptLint.Syntax.Parse
import ScriptLint.Proofs.Rule.Reporting
import ScriptLint.Proofs.Text.Positions

/-!
# Where reports are located

The end of an accepted report is not located before its start, with one exception: a span may start
inside a character, and then the column of its start counts bytes, which can be more than there are
characters up to its end (`LineTable.Overcounts`). That is the only way (`position_le_position_iff`), and
a span that starts and ends between characters is always in order (`RuleContext.report_located`).
-/

namespace ScriptLint

namespace LineTable

variable {t : Text} {offset other : Nat}

/-- Whether the start of a span lies inside a character, and there are more bytes up to it in its line
than characters up to the end of the span, in that same line. -/
def Overcounts (t : Text) (span : Span) : Prop :=
  t.isBoundary span.start = false ∧
    ((ofText t).position t span.start).line = ((ofText t).position t span.stop).line ∧
    ∃ start inside, (ofText t).lineStart? ((ofText t).position t span.start).line = some start ∧
      Text.slice? t start span.stop = some inside ∧ inside.length < span.start - start

/-- An offset between characters is not located behind a later one. -/
theorem position_le_position (boundary : t.isBoundary offset = true) (le : offset ≤ other)
    (within : other ≤ Text.size t) :
    (ofText t).position t offset ≤ (ofText t).position t other := by
  rcases Nat.lt_or_eq_of_le (line_le_line le within) with before | same
  · exact .inl before
  cases ends : t.isBoundary other with
  | true =>
    rcases Nat.lt_or_eq_of_le le with lt | rfl
    · exact Position.le_of_lt (position_lt_position boundary ends lt)
    · exact Position.le_refl _
  | false =>
    -- the later offset counts bytes, and a text has no more characters than bytes
    obtain ⟨front, inside, behind, -, rfl, found, column⟩ := position_of_parts boundary
    obtain ⟨start, -, found', column'⟩ := column_of_inside ends within
    obtain rfl : start = Text.size front := by
      rw [same, found'] at found
      exact Option.some.inj found
    have := Text.length_le_size inside
    simp only [Text.size_append] at le
    right
    refine ⟨same, ?_⟩
    rw [column, column']
    omega

/-- In one line, an offset inside a character is located by bytes. -/
theorem column_le_column_iff (inside : t.isBoundary offset = false) (le : offset ≤ other)
    (within : other ≤ Text.size t)
    (same : ((ofText t).position t offset).line = ((ofText t).position t other).line) :
    ((ofText t).position t offset).column ≤ ((ofText t).position t other).column ↔
      ¬ Overcounts t ⟨offset, other⟩ := by
  obtain ⟨start, -, found, column⟩ := column_of_inside inside (Nat.le_trans le within)
  cases ends : t.isBoundary other with
  | false =>
    obtain ⟨start', -, found', column'⟩ := column_of_inside ends within
    obtain rfl : start = start' := by
      rw [same, found'] at found
      exact (Option.some.inj found).symm
    have uncut : ¬ Overcounts t ⟨offset, other⟩ := by
      rintro ⟨-, -, _, _, -, cut, -⟩
      rw [Text.isBoundary_of_slice? cut] at ends
      cases ends
    simp only [column, column', uncut, not_false_eq_true, iff_true]
    omega
  | true =>
    obtain ⟨front, middle, behind, rfl, rfl, found', column'⟩ := position_of_parts ends
    obtain rfl : start = Text.size front := by
      rw [same, found'] at found
      exact (Option.some.inj found).symm
    have cut := Text.slice?_of_parts front middle behind
    rw [← Text.size_append] at cut
    rw [column, column', Nat.add_le_add_iff_right]
    constructor
    · rintro fine ⟨-, -, start, counted, found'', cut', less⟩
      obtain rfl : Text.size front = start := Option.some.inj (found.symm.trans found'')
      obtain rfl : middle = counted := Option.some.inj (cut.symm.trans cut')
      exact absurd less (Nat.not_lt.2 fine)
    · intro fine
      by_contra more
      exact fine ⟨inside, same, _, middle, found, cut, Nat.lt_of_not_le more⟩

/-- An offset is located behind a later one if and only if it overcounts. -/
theorem position_le_position_iff (le : offset ≤ other) (within : other ≤ Text.size t) :
    (ofText t).position t offset ≤ (ofText t).position t other ↔ ¬ Overcounts t ⟨offset, other⟩ := by
  cases starts : t.isBoundary offset with
  | true =>
    have fine : ¬ Overcounts t ⟨offset, other⟩ := by
      rintro ⟨inside, -⟩
      exact absurd (starts.symm.trans inside) (by decide)
    simp only [position_le_position starts le within, fine, not_false_eq_true]
  | false =>
    rcases Nat.lt_or_eq_of_le (line_le_line le within) with before | same
    · have fine : ¬ Overcounts t ⟨offset, other⟩ := by
        rintro ⟨-, same, -⟩
        exact absurd same (Nat.ne_of_lt before)
      simp only [Position.le_iff, before, fine, true_or, not_false_eq_true]
    · rw [← column_le_column_iff starts le within same]
      simp only [Position.le_iff, same, Nat.lt_irrefl, false_or, true_and]

end LineTable

namespace RuleContext

/-- An accepted report is located between two positions that are in order, unless the start of its span
lies inside a character and overcounts. A span that is not empty and whose ends lie between characters
has different positions, in their order. -/
theorem report_located {ctx : RuleContext} {r : Report} {d : Diagnostic} (ok : ctx.report r = .ok d) :
    ∃ stop : Position, d.location.endLine = some stop.line ∧ d.location.endColumn = some stop.column ∧
      (d.location.start ≤ stop ↔ ¬ LineTable.Overcounts ctx.source.text r.span) ∧
      d.location.start.line ≤ stop.line ∧
      (r.span.start < r.span.stop → ctx.source.text.isBoundary r.span.start = true →
        ctx.source.text.isBoundary r.span.stop = true → d.location.start < stop) := by
  obtain ⟨allowed, answers⟩ := answers_of_ok ok
  obtain ⟨ordered, within⟩ := allowed.enclosed
  refine ⟨ctx.source.position r.span.stop, answers.stop.1, answers.stop.2, ?_, ?_, ?_⟩
  · rw [answers.start]
    exact LineTable.position_le_position_iff ordered within
  · rw [answers.start]
    exact LineTable.line_le_line ordered within
  · intro lt starts ends
    rw [answers.start]
    exact LineTable.position_lt_position starts ends lt

/-- A rule with one message, in a file with two characters of two bytes each. -/
def accented : RuleContext :=
  ⟨⟨"js/test", "", .style, none, [], [("m", "m")], none⟩, .warning, [], .null,
    ⟨['é', 'é'], (ScriptLint.parse ['é', 'é']).tree⟩⟩

theorem report_located_accented :
    ∃ d stop, accented.report (.new ⟨2, 4⟩ "m") = .ok d ∧ d.location.endLine = some stop.line ∧
      d.location.endColumn = some stop.column ∧ d.location.start < stop := by
  obtain ⟨d, ok⟩ : ∃ d, accented.report (.new ⟨2, 4⟩ "m") = .ok d := ⟨_, rfl⟩
  obtain ⟨stop, line, column, -, -, strict⟩ := report_located ok
  exact ⟨d, stop, ok, line, column, strict (by decide) (by decide) (by decide)⟩

/-- A span that starts inside the second character and ends behind it is located backwards: three bytes
lie before its start, and two characters before its end. -/
theorem report_accented_backwards :
    ∃ d stop, accented.report (.new ⟨3, 4⟩ "m") = .ok d ∧ d.location.endLine = some stop.line ∧
      d.location.endColumn = some stop.column ∧ d.location.start = ⟨1, 4⟩ ∧ stop = ⟨1, 3⟩ ∧
      ¬ d.location.start ≤ stop := by
  refine ⟨_, ⟨1, 3⟩, rfl, ?_, ?_, ?_, rfl, ?_⟩ <;> decide

end RuleContext

end ScriptLint
