import ScriptLint.Proofs.Text.Lines

/-!
# Carriage returns before line feeds

A text without carriage returns has as many lines once one is put before each of its line feeds, and
each place in it stays on its line (`line_withReturns`).
-/

namespace ScriptLint

namespace Text

/-- The text with a carriage return before every line feed. -/
def withReturns (t : Text) : Text := t.flatMap fun c => if c = '\n' then ['\r', '\n'] else [c]

variable {t : Text} {c : Char}

@[simp] theorem withReturns_nil : withReturns [] = [] := rfl

@[simp] theorem withReturns_feed (t : Text) :
    withReturns ('\n' :: t) = '\r' :: '\n' :: withReturns t := rfl

theorem withReturns_cons (other : c ≠ '\n') (t : Text) :
    withReturns (c :: t) = c :: withReturns t := by
  rw [withReturns, List.flatMap_cons, if_neg other]
  rfl

@[simp] theorem withReturns_append (s t : Text) :
    withReturns (s ++ t) = withReturns s ++ withReturns t :=
  List.flatMap_append

theorem withReturns_of_notMem (none : '\n' ∉ t) : withReturns t = t := by
  induction t with
  | nil => rfl
  | cons c t ih =>
    obtain ⟨other, later⟩ := not_or.1 (mt List.mem_cons.2 none)
    rw [withReturns_cons (Ne.symm other), ih later]

theorem head?_withReturns (t : Text) :
    (withReturns t).head? = t.head?.map fun c => if c = '\n' then '\r' else c := by
  cases t with
  | nil => rfl
  | cons c t =>
    by_cases feed : c = '\n'
    · subst feed
      rfl
    · simp [withReturns_cons feed, feed]

/-- A text with returns before its feeds starts with no feed. -/
theorem head?_withReturns_ne (t : Text) : (withReturns t).head? ≠ some '\n' := by
  rw [head?_withReturns]
  intro head
  obtain ⟨c, -, same⟩ := Option.map_eq_some_iff.1 head
  split at same
  · cases same
  · contradiction

section
variable {p : Char → Bool} (alike : p '\r' = p '\n')
include alike

/-- A class of characters that does not tell the two marks of a line end apart. -/
theorem all_withReturns (t : Text) : (withReturns t).all p = t.all p := by
  induction t with
  | nil => rfl
  | cons c t ih =>
    by_cases feed : c = '\n'
    · subst feed
      simp only [withReturns_feed, List.all_cons, ih, alike, ← Bool.and_assoc, Bool.and_self]
    · rw [withReturns_cons feed, List.all_cons, List.all_cons, ih]

theorem any_head?_withReturns (t : Text) : (withReturns t).head?.any p = t.head?.any p := by
  cases t with
  | nil => rfl
  | cons c t =>
    by_cases feed : c = '\n'
    · subst feed
      exact alike
    · rw [withReturns_cons feed]
      rfl

end

theorem any_isLineBreak_withReturns (t : Text) :
    (withReturns t).any isLineBreak = t.any isLineBreak := by
  induction t with
  | nil => rfl
  | cons c t ih =>
    by_cases feed : c = '\n'
    · subst feed
      simp [isLineBreak]
    · simp [withReturns_cons feed, ih]

end Text

namespace LineTable

open Text

variable {before behind t : Text}

theorem length_startsFrom_withReturns (lone : '\r' ∉ t) (offset offset' : Nat) :
    (startsFrom offset' (withReturns t)).length = (startsFrom offset t).length := by
  induction t generalizing offset offset' with
  | nil => rfl
  | cons c t ih =>
    obtain ⟨other, later⟩ := not_or.1 (mt List.mem_cons.2 lone)
    have plain {cs ds : Text} : c = '\r' → cs = '\n' :: ds → False := fun first _ => other first.symm
    by_cases feed : c = '\n'
    · subst feed
      rw [withReturns_feed, startsFrom, startsFrom.eq_2 _ _ _ (fun _ => plain),
        if_pos (show isLineBreak '\n' = true from rfl), List.length_cons, List.length_cons, ih later]
    · rw [withReturns_cons feed, startsFrom.eq_2 _ _ _ (fun _ => plain),
        startsFrom.eq_2 _ _ _ (fun _ => plain)]
      have ends : ¬ isLineBreak c = true := by simpa [isLineBreak, feed] using Ne.symm other
      rw [if_neg ends, if_neg ends]
      exact ih later _ _

/-- Each place in a text stays on its line. -/
theorem line_withReturns (lone : '\r' ∉ before) :
    ((ofText (withReturns (before ++ behind))).position (withReturns (before ++ behind))
        (Text.size (withReturns before))).line =
      ((ofText (before ++ behind)).position (before ++ behind) (Text.size before)).line := by
  have whole : ¬ SplitsEnd before behind := fun splits => lone (List.mem_of_getLast? splits.1)
  have whole' : ¬ SplitsEnd (withReturns before) (withReturns behind) :=
    fun splits => head?_withReturns_ne behind splits.2
  rw [withReturns_append, line_position whole, line_position whole']
  simp [count, ofText, length_startsFrom_withReturns lone 0 0]

end LineTable

end ScriptLint
