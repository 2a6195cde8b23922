import Mathlib.Data.List.Iterate
import ScriptLint.Proofs.Linter.Pass

/-!
# The texts of a run

Each pass of a run parses one text (`Linter.texts`), and as long as passes go on, each further text is
the one before with the edits of its pass made (`Linter.edited`).

A run that has no pass left is the start of every run that is permitted more: the longer one goes on
from its outcome (`run_add_of_exhausted`), and so do its texts (`texts_add_of_exhausted`). A run that a
pass stops is the same whatever else is permitted (`run_add_of_stop`).
-/

namespace ScriptLint.Linter

/-- The texts that the passes parse, from an outcome on, if so many passes are left. -/
def texts (l : Linter) (rules : List ConfiguredRule) : (left : Nat) → Outcome → List Text
  | 0, _ => []
  | left + 1, o =>
    o.output ::
      match l.pass rules o with
      | .stop _ _ => []
      | .next after => l.texts rules left after

/-- A text with the edits of a pass made. -/
def edited (l : Linter) (rules : List ConfiguredRule) (text : Text) : Text :=
  (l.spliced rules (.start text)).output

/-- The same linter with another bound on its passes. -/
def permitting (l : Linter) (maxPasses : Nat) : Linter :=
  { l with options := { l.options with maxPasses := maxPasses } }

variable {l : Linter} {rules : List ConfiguredRule} {o last : Outcome}

theorem texts_of_stop {left : Nat} {why : Stop} (does : Does l rules o (.stop why last)) :
    l.texts rules (left + 1) o = [o.output] := by
  simp only [texts, does.eq]

theorem texts_of_next {left : Nat} {after : Outcome} (does : Does l rules o (.next after)) :
    l.texts rules (left + 1) o = o.output :: l.texts rules left after := by
  simp only [texts, does.eq]

/-- The next pass goes on from the text with the edits of this one made. -/
theorem Does.output_next {after : Outcome} (does : Does l rules o (.next after)) :
    after.output = l.edited rules o.output := by
  cases does with
  | edited parses works some => rfl

theorem Does.passes_next {after : Outcome} (does : Does l rules o (.next after)) :
    after.passes = o.passes + 1 := by
  cases does with
  | edited parses works some => rfl

/-- From an outcome to a later one by passes over some texts, each of which another pass follows. -/
inductive Leads (l : Linter) (rules : List ConfiguredRule) : List Text → Outcome → Outcome → Prop
  | refl (o : Outcome) : Leads l rules [] o o
  | next {earlier : List Text} {o after last : Outcome} (does : Does l rules o (.next after))
      (behind : Leads l rules earlier after last) : Leads l rules (o.output :: earlier) o last

/-- A run leads to an outcome with which no pass is left, or to a pass that stops it. -/
theorem run_cases {left : Nat} {why : Stop} (ends : l.run rules left o = (why, last)) :
    ∃ earlier before, Leads l rules earlier o before ∧
      ((why = .exhausted ∧ last = before ∧ l.texts rules left o = earlier) ∨
        (Does l rules before (.stop why last) ∧
          l.texts rules left o = earlier ++ [before.output])) := by
  induction left generalizing o with
  | zero =>
    obtain ⟨rfl, rfl⟩ := Prod.mk.inj ends
    exact ⟨[], o, .refl o, .inl ⟨rfl, rfl, rfl⟩⟩
  | succ left ih =>
    rcases run_succ_cases ends with stop | ⟨after, does, behind⟩
    · exact ⟨[], o, .refl o, .inr ⟨stop, texts_of_stop stop⟩⟩
    · obtain ⟨earlier, before, leads, ending⟩ := ih behind
      refine ⟨o.output :: earlier, before, .next does leads, ending.imp ?_ ?_⟩
      · exact fun ⟨why, same, texts⟩ => ⟨why, same, by rw [texts_of_next does, texts]⟩
      · exact fun ⟨stop, texts⟩ => ⟨stop, by rw [texts_of_next does, texts, List.cons_append]⟩

namespace Leads

variable {earlier : List Text}

/-- The texts of passes are one text with the edits of more and more of them made. -/
theorem texts_eq_iterate (leads : Leads l rules earlier o last) :
    earlier ++ [last.output] = List.iterate (l.edited rules) o.output (earlier.length + 1) := by
  induction leads with
  | refl o => rfl
  | next does behind ih =>
    rw [List.cons_append, ih, does.output_next]
    rfl

theorem passes (leads : Leads l rules earlier o last) : last.passes = o.passes + earlier.length := by
  induction leads with
  | refl o => rfl
  | next does behind ih =>
    rw [ih, does.passes_next, List.length_cons]
    omega

theorem error (leads : Leads l rules earlier o last) (works : o.error = none) :
    last.error = none := by
  induction leads with
  | refl o => exact works
  | next does behind ih =>
    cases does with
    | edited parses works some => exact ih works

end Leads

section
variable {left : Nat} (ends : l.run rules left o = (.exhausted, last))
include ends

theorem run_add_of_exhausted (more : Nat) :
    l.run rules (left + more) o = l.run rules more last := by
  induction left generalizing o with
  | zero =>
    obtain ⟨-, rfl⟩ := Prod.mk.inj ends
    rw [Nat.zero_add]
  | succ left ih =>
    rw [Nat.add_right_comm]
    rcases run_succ_cases ends with stop | ⟨after, does, behind⟩
    · exact absurd rfl stop.stops
    · rw [run_of_next does, ih behind]

theorem texts_add_of_exhausted (more : Nat) :
    l.texts rules (left + more) o = l.texts rules left o ++ l.texts rules more last := by
  induction left generalizing o with
  | zero =>
    obtain ⟨-, rfl⟩ := Prod.mk.inj ends
    rw [Nat.zero_add]
    rfl
  | succ left ih =>
    rw [Nat.add_right_comm]
    rcases run_succ_cases ends with stop | ⟨after, does, behind⟩
    · exact absurd rfl stop.stops
    · rw [texts_of_next does, texts_of_next does, ih behind, List.cons_append]

/-- Each pass of a run that has none left has parsed a text. -/
theorem length_texts_of_exhausted : (l.texts rules left o).length = left := by
  induction left generalizing o with
  | zero => rfl
  | succ left ih =>
    rcases run_succ_cases ends with stop | ⟨after, does, behind⟩
    · exact absurd rfl stop.stops
    · rw [texts_of_next does, List.length_cons, ih behind]

end

theorem run_add_of_stop {left : Nat} {why : Stop} (ends : l.run rules left o = (why, last))
    (early : why ≠ .exhausted) (more : Nat) : l.run rules (left + more) o = (why, last) := by
  induction left generalizing o with
  | zero =>
    obtain ⟨rfl, -⟩ := Prod.mk.inj ends
    exact absurd rfl early
  | succ left ih =>
    rw [Nat.add_right_comm]
    rcases run_succ_cases ends with stop | ⟨after, does, behind⟩
    · exact run_of_stop stop
    · rw [run_of_next does, ih behind]

/-- Passes do not know how many of them are permitted. -/
theorem run_permitting (maxPasses left : Nat) :
    (l.permitting maxPasses).run rules left o = l.run rules left o := by
  induction left generalizing o with
  | zero => rfl
  | succ left ih =>
    have same : (l.permitting maxPasses).pass rules o = l.pass rules o := rfl
    unfold run
    rw [same]
    cases l.pass rules o with
    | stop why last => rfl
    | next after => exact ih

theorem texts_permitting (maxPasses left : Nat) :
    (l.permitting maxPasses).texts rules left o = l.texts rules left o := by
  induction left generalizing o with
  | zero => rfl
  | succ left ih =>
    have same : (l.permitting maxPasses).pass rules o = l.pass rules o := rfl
    unfold texts
    rw [same]
    cases l.pass rules o with
    | stop why last => rfl
    | next after => exact congrArg (o.output :: ·) ih

end ScriptLint.Linter
