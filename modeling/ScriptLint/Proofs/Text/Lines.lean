import ScriptLint.Text.Lines

/-!
# The line of an offset

Between two parts of a text, the line is told by the first part alone: it is the last one of that part
(`line_position`). Only between a carriage return and its line feed it is not.
-/

namespace ScriptLint

namespace Text

/-- Whether a line end of two characters lies across the joint of two texts. -/
def SplitsEnd (before behind : Text) : Prop :=
  before.getLast? = some '\r' ∧ behind.head? = some '\n'

variable {before behind : Text}

theorem SplitsEnd.cons (splits : SplitsEnd before behind) (c : Char) :
    SplitsEnd (c :: before) behind :=
  ⟨by simp [List.getLast?_cons, splits.1], splits.2⟩

end Text

open Text (SplitsEnd isLineBreak)

namespace LineTable

variable {before behind t : Text} {offset : Nat}

/-- A line starts behind an end that lies in the text. -/
theorem bounds_of_mem_startsFrom {start : Nat} (mem : start ∈ startsFrom offset t) :
    offset < start ∧ start ≤ offset + Text.size t := by
  fun_induction startsFrom offset t with
  | case1 offset cs ih =>
    have wide : Text.size ('\r' :: '\n' :: cs) = 2 + Text.size cs := by
      simp only [Text.size_cons, ← Nat.add_assoc]
      rfl
    rcases List.mem_cons.1 mem with rfl | later
    · omega
    · have := ih later
      omega
  | case2 offset c cs _ ends ih =>
    have wide : 1 ≤ c.utf8Size := c.utf8Size_pos
    rw [Text.size_cons]
    rcases List.mem_cons.1 mem with rfl | later
    · omega
    · have := ih later
      omega
  | case3 offset c cs _ _ ih =>
    have := ih mem
    rw [Text.size_cons]
    omega
  | case4 => cases mem

/-- The lines of a text start as those of its parts do. -/
theorem startsFrom_append (whole : ¬ SplitsEnd before behind) (offset : Nat) :
    startsFrom offset (before ++ behind) =
      startsFrom offset before ++ startsFrom (offset + Text.size before) behind := by
  fun_induction startsFrom offset before with
  | case1 offset cs ih =>
    have two : Text.size ['\r', '\n'] = 2 := rfl
    rw [List.cons_append, List.cons_append, startsFrom,
      ih fun splits => whole ((splits.cons '\n').cons '\r'), ← two, Nat.add_assoc,
      ← Text.size_append]
    rfl
  | case2 offset c cs other ends ih =>
    have one : c.utf8Size = 1 := by
      rcases (by simpa [isLineBreak] using ends : c = '\n' ∨ c = '\r') with rfl | rfl <;> rfl
    have other' : ∀ ds, c = '\r' → cs ++ behind = '\n' :: ds → False := by
      intro ds first next
      cases cs with
      | nil => exact whole ⟨by simp [first], by simp [show behind = '\n' :: ds from next]⟩
      | cons d cs => exact other cs first (congrArg (· :: cs) (List.cons.inj next).1)
    rw [List.cons_append, startsFrom.eq_2 _ _ _ other', if_pos ends,
      ih fun splits => whole (splits.cons c), Text.size_cons, one, Nat.add_assoc]
    rfl
  | case3 offset c cs other ends ih =>
    have other' : ∀ ds, c = '\r' → cs ++ behind = '\n' :: ds → False := by
      rintro ds rfl
      exact absurd rfl ends
    rw [List.cons_append, startsFrom.eq_2 _ _ _ other', if_neg ends,
      ih fun splits => whole (splits.cons c), Text.size_cons, Nat.add_assoc]
  | case4 offset => rfl

/-- The lines that start up to the end of the first part are those of the part. -/
theorem startsUpTo_append (whole : ¬ SplitsEnd before behind) :
    (ofText (before ++ behind)).startsUpTo (Text.size before) = (ofText before).starts := by
  have within : ∀ start ∈ (ofText before).starts, decide (start ≤ Text.size before) = true := by
    intro start mem
    rcases List.mem_cons.1 mem with rfl | later
    · simp
    · simpa using (bounds_of_mem_startsFrom later).2
  have beyond : (startsFrom (Text.size before) behind).takeWhile
      (fun start => decide (start ≤ Text.size before)) = [] := by
    cases eq : startsFrom (Text.size before) behind with
    | nil => rfl
    | cons start starts =>
      have := (bounds_of_mem_startsFrom (eq ▸ List.mem_cons_self)).1
      exact List.takeWhile_cons_of_neg (by simpa using this)
  have joined : (ofText (before ++ behind)).starts =
      (ofText before).starts ++ startsFrom (Text.size before) behind := by
    simp [ofText, startsFrom_append whole]
  rw [startsUpTo, joined, List.takeWhile_append_of_pos within, beyond, List.append_nil]

/-- The line of the place between two parts of a text is the last line of the first part. -/
theorem line_position (whole : ¬ SplitsEnd before behind) :
    ((ofText (before ++ behind)).position (before ++ behind) (Text.size before)).line =
      (ofText before).count := by
  have inside : min (Text.size before) (ofText (before ++ behind)).size = Text.size before :=
    Nat.min_eq_left (by simp [ofText])
  simp only [position, inside, startsUpTo_append whole]
  rfl

end LineTable

end ScriptLint
