import ScriptLint.Proofs.Linter.Accounting
import ScriptLint.Proofs.Linter.Texts

/-!
# Settled edits

An edit that a rule reports fits the text that the rule was asked about: this is checked of each edit
of a report, and several of them are merged into one that fits. So in every pass all edits are
candidates, none is ignored, and each is accepted or skipped. A run without a failure leaves no edit
open (`verifyAndFix_settles`): its last pass has settled what it found.
-/

namespace ScriptLint.Linter

variable {l : Linter} {rules : List ConfiguredRule} {o : Outcome}

/-- What rules find in a text fits it. -/
theorem found_fits : ∀ d ∈ (l.found rules o).diagnostics, ∀ e, d.edit = some e →
    e.isValid o.output = true := by
  intro d mem e carried
  obtain ⟨r, _, reported⟩ := found_reported d mem
  exact reported.fits e carried

theorem found_open : ∀ d ∈ (l.found rules o).diagnostics, d.status = .available →
    d.edit.isSome := by
  intro d mem available
  obtain ⟨r, _, reported⟩ := found_reported d mem
  rw [reported.status] at available
  cases carried : d.edit with
  | none => simp [carried] at available
  | some e => rfl

/-- Whether a failure of a rule is the only reason for an edit that is not settled. -/
def Settled (o : Outcome) : Prop := o.error = none → ∀ d ∈ o.diagnostics, d.status ≠ .available

theorem settled_of_does {p : Pass} (does : Does l rules o p) (settled : Settled o) :
    Settled p.outcome := by
  have spliced : ∀ d ∈ (l.spliced rules o).diagnostics, d.status ≠ .available :=
    Splice.status_ne_available found_fits found_open
  cases does with
  | unparsed errors =>
    intro works d mem
    rcases List.mem_append.1 mem with before | syntaxError
    · exact settled works d before
    · obtain rfl := List.mem_singleton.1 syntaxError
      simp [SyntaxError.diagnostic, Diagnostic.new]
  | crashed parses fails =>
    intro works
    cases fails.symm.trans works
  | settled parses works nothing => exact fun _ => spliced
  | edited parses works some => exact fun _ => spliced

/-- No edit that does not fit its text comes to be settled. In every pass of a run, whatever the
parser and the rules, each edit that was collected has its ends in order, in the text and between
characters, so none is ignored as a candidate, and each is accepted or skipped. After a run in which
no rule failed no edit is open. -/
theorem verifyAndFix_settles (l : Linter) (rules : List ConfiguredRule) (input : Text) :
    let o := l.verifyAndFix rules input
    (∀ text ∈ l.texts rules l.options.maxPasses (.start input),
      let found := (l.dispatch rules text (l.parse text).tree).diagnostics
      let s := Splice.run text found
      (∀ d ∈ found, ∀ e, d.edit = some e →
        e.span.start ≤ e.span.stop ∧ e.span.stop ≤ Text.size text ∧
          text.isBoundary e.span.start ∧ text.isBoundary e.span.stop) ∧
        (∀ d ∈ found, d.edit.filter (Edit.isValid text) = d.edit) ∧
        s.applied + s.skipped = found.countP fun d => d.edit.isSome) ∧
      (o.error = none → ∀ d ∈ o.fixed ++ o.diagnostics, d.status ≠ .available) := by
  intro o
  constructor
  · intro text _ found s
    have fits : ∀ d ∈ found, ∀ e, d.edit = some e → e.isValid text = true :=
      @found_fits l rules (.start text)
    refine ⟨fun d mem e carried => Edit.isValid_iff.1 (fits d mem e carried), fun d mem => ?_,
      Splice.applied_add_skipped fits⟩
    cases carried : d.edit with
    | none => rfl
    | some e => exact Option.filter_eq_some_iff.2 ⟨rfl, fits d mem e carried⟩
  · intro works d mem
    rcases List.mem_append.1 mem with before | last
    · obtain ⟨accounted, -⟩ := accounted_verifyAndFix l rules input
      simp [accounted.fixed d before]
    · have settled : Settled o := by
        simp only [o, verifyAndFix_eq_run]
        exact run_invariant settled_of_does _ (by simp [Settled, Outcome.start])
      exact settled works d last

end ScriptLint.Linter
