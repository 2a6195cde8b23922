import ScriptLint.Execution
import ScriptLint.Proofs.Dispatch
import ScriptLint.Proofs.Splice
import ScriptLint.Proofs.Linter.Pass

/-!
# Accounting of edits

Diagnostics with an edit that was made move from the last pass to those that are fixed, so the
number of edits made stays the number of diagnostics that say so (`Outcome.Accounted`), through
every pass and whatever ends the run (`verifyAndFix_accounted`).
-/

namespace ScriptLint

/-- Whether the statuses of diagnostics are in step with their edits. -/
def InStep (ds : List Diagnostic) : Prop := ∀ d ∈ ds, d.status = .none ↔ d.edit = none

open Diagnostic (appliedCount)

theorem appliedCount_append (ds es : List Diagnostic) :
    appliedCount (ds ++ es) = appliedCount ds + appliedCount es := List.countP_append

theorem InStep.append {ds es : List Diagnostic} (h : InStep ds) (h' : InStep es) :
    InStep (ds ++ es) := by
  intro d mem
  rcases List.mem_append.1 mem with first | second
  · exact h d first
  · exact h' d second

namespace Outcome

/-- The edits made are those of the diagnostics that say so, and without them the text is the
input. -/
structure Accounted (o : Outcome) : Prop where
  fixed : ∀ d ∈ o.fixed, d.status = .applied
  applied : o.applied = appliedCount o.allDiagnostics
  inStep : InStep o.allDiagnostics
  unchanged : o.applied = 0 → o.output = o.input

theorem accounted_start (input : Text) : (start input).Accounted :=
  ⟨by simp [start], rfl, by simp [InStep, start, allDiagnostics], fun _ => rfl⟩

end Outcome

namespace Linter

open Outcome (Accounted)

variable {l : Linter} {rules : List ConfiguredRule} {o : Outcome}

theorem found_reported : ∀ d ∈ (l.found rules o).diagnostics,
    ∃ r ∈ rules, d.ReportedBy r.id o.output :=
  fun _ => Dispatch.run_reported

theorem found_inStep : InStep (l.found rules o).diagnostics := by
  intro d mem
  obtain ⟨r, _, reported⟩ := found_reported d mem
  rw [reported.status]
  cases d.edit <;> simp

theorem found_fresh : ∀ d ∈ (l.found rules o).diagnostics, d.status ≠ .applied := by
  intro d mem
  obtain ⟨r, _, reported⟩ := found_reported d mem
  rw [reported.status]
  cases d.edit <;> simp

/-- When a pass is recorded, the diagnostics it replaces that say their edit was made are fixed. -/
theorem Accounted.record (h : o.Accounted) (d : Dispatch) {ds : List Diagnostic} {output : Text}
    (inStep : InStep ds) (kept : appliedCount ds = 0 → output = o.output) :
    Accounted
      { record o d with
        diagnostics := ds
        applied := o.applied + appliedCount ds
        output := output } where
  fixed := by
    intro x mem
    rcases List.mem_append.1 mem with before | superseded
    · exact h.fixed x before
    · simpa using (List.mem_filter.1 superseded).2
  applied := by
    have moved : appliedCount (o.diagnostics.filter fun d => d.status == .applied) =
        appliedCount o.diagnostics := by
      simp [appliedCount, List.countP_filter]
    have before := h.applied
    simp only [Outcome.allDiagnostics, appliedCount_append] at before
    simp only [Outcome.allDiagnostics, Linter.record, appliedCount_append]
    omega
  inStep := by
    refine InStep.append (fun x mem => ?_) inStep
    rcases List.mem_append.1 mem with before | superseded
    · exact h.inStep x (List.mem_append_left _ before)
    · exact h.inStep x (List.mem_append_right _ (List.mem_filter.1 superseded).1)
  unchanged := by
    intro nothing
    have parts : o.applied = 0 ∧ appliedCount ds = 0 := by
      simp only at nothing
      omega
    exact (kept parts.2).trans (h.unchanged parts.1)

theorem accounted_stopAt (h : o.Accounted) (e : SyntaxError) : (stopAt o e).Accounted where
  fixed := h.fixed
  applied := by
    have before := h.applied
    simp only [Outcome.allDiagnostics, appliedCount_append] at before
    simp only [Outcome.allDiagnostics, stopAt, appliedCount_append]
    exact before
  inStep := by
    have more : InStep [e.diagnostic o.output] := by
      simp [InStep, SyntaxError.diagnostic, Diagnostic.new]
    have whole := InStep.append h.inStep more
    simpa [Outcome.allDiagnostics, stopAt] using whole
  unchanged := h.unchanged

theorem accounted_of_does {p : Pass} (does : Does l rules o p) (h : o.Accounted) :
    p.outcome.Accounted := by
  have foundInStep : InStep (l.found rules o).diagnostics := found_inStep
  have settledInStep : InStep (l.spliced rules o).diagnostics :=
    Splice.status_eq_none_iff foundInStep
  have count : appliedCount (l.spliced rules o).diagnostics = (l.spliced rules o).applied :=
    Splice.countP_applied found_fresh
  cases does with
  | unparsed errors => exact accounted_stopAt h _
  | crashed parses fails =>
    -- No edit was settled, so nothing that the rules found counts as applied.
    have none : appliedCount (l.found rules o).diagnostics = 0 :=
      List.countP_eq_zero.2 fun d mem => by simpa using found_fresh d mem
    have recorded := Accounted.record h (l.found rules o) foundInStep fun _ => rfl
    rw [none] at recorded
    exact recorded
  | settled parses works nothing =>
    have recorded := Accounted.record h (l.found rules o) settledInStep fun _ => rfl
    rw [count, nothing] at recorded
    exact recorded
  | edited parses works some =>
    have changed : appliedCount (l.spliced rules o).diagnostics = 0 →
        (l.spliced rules o).output = o.output :=
      fun none => absurd (count.symm.trans none) some
    have recorded := Accounted.record h (l.found rules o) settledInStep changed
    rw [count] at recorded
    exact recorded

theorem passes_of_does {p : Pass} (does : Does l rules o p) : p.outcome.passes ≤ o.passes + 1 := by
  cases does with
  | unparsed errors => exact Nat.le_succ o.passes
  | crashed parses fails => exact Nat.le_refl _
  | settled parses works nothing => exact Nat.le_refl _
  | edited parses works some => exact Nat.le_refl _

theorem passes_run_le (left : Nat) : (l.run rules left o).2.passes ≤ o.passes + left := by
  induction left generalizing o with
  | zero => exact Nat.le_refl _
  | succ left ih =>
    have first : (l.pass rules o).outcome.passes ≤ o.passes + 1 := passes_of_does pass_does
    unfold run
    cases result : l.pass rules o with
    | stop why last =>
      rw [result] at first
      exact Nat.le_trans first (by omega)
    | next o' =>
      rw [result] at first
      have here : o'.passes ≤ o.passes + 1 := first
      have behind : (l.run rules left o').2.passes ≤ o'.passes + left := ih
      exact Nat.le_trans behind (by omega)

theorem input_of_does {p : Pass} (does : Does l rules o p) : p.outcome.input = o.input := by
  cases does <;> rfl

theorem accounted_verifyAndFix (l : Linter) (rules : List ConfiguredRule) (input : Text) :
    (l.verifyAndFix rules input).Accounted ∧ (l.verifyAndFix rules input).input = input := by
  rw [verifyAndFix_eq_run]
  exact run_invariant (P := fun o => o.Accounted ∧ o.input = input)
    (fun does h => ⟨accounted_of_does does h.1, (input_of_does does).trans h.2⟩) _
    ⟨Outcome.accounted_start input, rfl⟩

/-- The accounts of fixing a text, for every linter, all rules and however the run ends: no more
passes than permitted, only applied edits among what is fixed, each edit made counted once, statuses
in step with edits, and no new text without an edit. The result of a file has the same count. -/
theorem verifyAndFix_accounted (l : Linter) (rules : List ConfiguredRule) (input : Text) :
    let o := l.verifyAndFix rules input
    o.passes ≤ l.options.maxPasses ∧
      (∀ d ∈ o.fixed, d.status = .applied) ∧
      o.applied = (o.fixed ++ o.diagnostics).countP (fun d => d.status == .applied) ∧
      (∀ d ∈ o.fixed ++ o.diagnostics, d.status = .none ↔ d.edit = none) ∧
      (o.applied = 0 → o.output = input) ∧
      ∀ path, (FileResult.ofOutcome path o).applied =
        (FileResult.ofOutcome path o).diagnostics.countP (fun d => d.status == .applied) := by
  intro o
  obtain ⟨accounted, same⟩ := accounted_verifyAndFix l rules input
  refine ⟨?_, accounted.fixed, accounted.applied, accounted.inStep, ?_, fun path => ?_⟩
  · have bound : (l.run rules l.options.maxPasses (.start input)).2.passes ≤
        0 + l.options.maxPasses := passes_run_le _
    rwa [← verifyAndFix_eq_run, Nat.zero_add] at bound
  · exact fun nothing => (accounted.unchanged nothing).trans same
  · have moved : (FileResult.ofOutcome path o).diagnostics.countP (fun d => d.status == .applied) =
        appliedCount o.allDiagnostics := by
      simp only [FileResult.ofOutcome, List.countP_map]
      rfl
    rw [moved]
    exact accounted.applied

end Linter

end ScriptLint
