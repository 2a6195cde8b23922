import ScriptLint.Proofs.Linter.Refixing
import ScriptLint.Proofs.Linter.Texts

/-!
# More passes

Permitting more passes changes nothing about a run that a pass stops, and a run that had no pass left
goes on where it ended: the next pass parses its output, and what is counted and fixed only grows
(`verifyAndFix_permitting`). The diagnostics of its last pass are not among the fixed ones yet; the
next pass moves them there.
-/

namespace ScriptLint.Linter

variable {l : Linter} {rules : List ConfiguredRule} {o last : Outcome}

/-- Whether an outcome goes on from another: no pass, no edit and no fixed diagnostic is lost. -/
structure Extends (last o : Outcome) : Prop where
  passes : o.passes ≤ last.passes
  applied : o.applied ≤ last.applied
  fixed : o.fixed <+: last.fixed

theorem Extends.refl (o : Outcome) : Extends o o :=
  ⟨Nat.le_refl _, Nat.le_refl _, List.prefix_refl _⟩

theorem Extends.trans {o' o'' : Outcome} (second : Extends o'' o') (first : Extends o' o) :
    Extends o'' o :=
  ⟨first.passes.trans second.passes, first.applied.trans second.applied,
    first.fixed.trans second.fixed⟩

theorem extends_of_does {p : Pass} (does : Does l rules o p) : Extends p.outcome o := by
  cases does with
  | unparsed errors => exact ⟨Nat.le_refl _, Nat.le_refl _, List.prefix_refl _⟩
  | crashed parses fails => exact ⟨Nat.le_succ _, Nat.le_refl _, List.prefix_append _ _⟩
  | settled parses works nothing => exact ⟨Nat.le_succ _, Nat.le_refl _, List.prefix_append _ _⟩
  | edited parses works some => exact ⟨Nat.le_succ _, Nat.le_add_right _ _, List.prefix_append _ _⟩

theorem extends_run (left : Nat) (o : Outcome) : Extends (l.run rules left o).2 o :=
  run_invariant (P := fun o' => Extends o' o) (fun does before => (extends_of_does does).trans before)
    left (.refl o)

/-- A linter that is permitted more passes. If a pass stops the run, the outcome stays the same
whatever else is permitted. If no pass was left, the first pass more parses the output of the run, and
no pass, edit or fixed diagnostic of it is lost. -/
theorem verifyAndFix_permitting (l : Linter) (rules : List ConfiguredRule) (input : Text)
    {few many : Nat} (le : few ≤ many) :
    let o := (l.permitting few).verifyAndFix rules input
    let o' := (l.permitting many).verifyAndFix rules input
    ((l.permitting few).ending rules input ≠ .exhausted → o' = o) ∧
      ((l.permitting few).ending rules input = .exhausted → few < many →
        ((l.permitting many).texts rules many (.start input))[few]? = some o.output ∧
          o.passes ≤ o'.passes ∧ o.applied ≤ o'.applied ∧ o.fixed <+: o'.fixed) := by
  intro o o'
  obtain ⟨more, rfl⟩ := Nat.exists_eq_add_of_le le
  have ends : l.run rules few (.start input) = ((l.permitting few).ending rules input, o) := by
    have same : (l.permitting few).run rules few (.start input) = l.run rules few (.start input) :=
      run_permitting few few
    exact same.symm.trans (Prod.ext rfl (verifyAndFix_eq_run input).symm)
  have runs : o' = (l.run rules (few + more) (.start input)).2 :=
    (verifyAndFix_eq_run input).trans (congrArg Prod.snd (run_permitting _ _))
  constructor
  · intro stops
    rw [runs, run_add_of_stop ends stops]
  · intro exhausted further
    rw [exhausted] at ends
    have extended : Extends o' o := by
      rw [runs, run_add_of_exhausted ends]
      exact extends_run more o
    refine ⟨?_, extended.passes, extended.applied, extended.fixed⟩
    have parsed : (l.texts rules few (.start input)).length = few := length_texts_of_exhausted ends
    obtain ⟨left, rfl⟩ : ∃ left, more = left + 1 := Nat.exists_eq_succ_of_ne_zero (by omega)
    rw [texts_permitting, texts_add_of_exhausted ends, List.getElem?_append_right (by omega), parsed,
      Nat.sub_self]
    rfl

/-- The second pass parses the text that the only pass permitted before has left. -/
theorem verifyAndFix_permitting_tidying :
    let l := new .default
    let o := (l.permitting 1).verifyAndFix [tidying] [';']
    let o' := (l.permitting 2).verifyAndFix [tidying] [';']
    1 ≤ 2 ∧ (l.permitting 1).ending [tidying] [';'] = .exhausted ∧ o.output = [] ∧
      ((l.permitting 2).texts [tidying] 2 (.start [';']))[1]? = some [] ∧
      o.passes ≤ o'.passes ∧ o.applied ≤ o'.applied ∧ o.fixed <+: o'.fixed := by
  intro l o o'
  obtain ⟨after, first, output⟩ := first_tidying
  have runs : (l.permitting 1).run [tidying] 1 (.start [';']) = (.exhausted, after) := by
    rw [run_permitting, run_of_next first]
    rfl
  have exhausted : (l.permitting 1).ending [tidying] [';'] = .exhausted := congrArg Prod.fst runs
  have final : o = after := (verifyAndFix_eq_run _).trans (congrArg Prod.snd runs)
  obtain ⟨-, goesOn⟩ := verifyAndFix_permitting l [tidying] [';'] (show 1 ≤ 2 by decide)
  obtain ⟨parsed, kept⟩ := goesOn exhausted (by decide)
  have empty : o.output = [] := by rw [final, output]
  exact ⟨by decide, exhausted, empty, parsed.trans (congrArg some empty), kept⟩

end ScriptLint.Linter
