import ScriptLint.Proofs.Linter.Accounting

/-!
# Fixing again

A pass depends on the text alone, so a run that starts with the text that another one ended with
begins with the pass that ended that one. It changes nothing more (`verifyAndFix_again`), unless the
first run had no pass left. If that pass accepted no edit, no diagnostic carried one: whatever rules
report fits the text, and the first edit in order is always accepted.
-/

namespace ScriptLint.Linter

variable {l : Linter} {rules : List ConfiguredRule} {o : Outcome}

/-- Where a splice makes no edit of what the rules found, they found none. -/
theorem edit_of_applied_eq_zero (nothing : (l.spliced rules o).applied = 0) :
    (l.spliced rules o).diagnostics = (l.found rules o).diagnostics ∧
      ∀ d ∈ (l.found rules o).diagnostics, d.edit = none := by
  refine ⟨Splice.diagnostics_of_applied_eq_zero nothing, fun d mem => ?_⟩
  obtain ⟨r, _, reported⟩ := found_reported d mem
  cases carried : d.edit with
  | none => rfl
  | some e =>
    -- An edit that is refused does not fit the text, but what a rule reports fits.
    have refused := Splice.applied_eq_zero_iff.1 nothing d mem e carried
    rw [reported.fits e carried] at refused
    cases refused

/-- A fresh run over the text of a pass that stops begins with that pass. -/
theorem Does.again {why : Stop} {last : Outcome} (does : Does l rules o (.stop why last)) :
    last.output = o.output ∧
      ∃ again, Does l rules (.start o.output) (.stop why again) ∧
        again.output = o.output ∧ again.applied = 0 ∧ again.fixed = [] ∧
        (why = .settled → again.passes = 1 ∧ again.diagnostics = last.diagnostics ∧
          again.skipped = last.skipped ∧ ∀ d ∈ again.diagnostics, d.edit = none) := by
  cases does with
  | unparsed errors => exact ⟨rfl, _, .unparsed errors, rfl, rfl, rfl, by simp⟩
  | crashed parses fails => exact ⟨rfl, _, .crashed parses fails, rfl, rfl, rfl, by simp⟩
  | settled parses works nothing =>
    obtain ⟨same, none⟩ := edit_of_applied_eq_zero nothing
    refine ⟨rfl, _, .settled parses works nothing, rfl, rfl, rfl, fun _ => ⟨rfl, rfl, rfl, ?_⟩⟩
    intro d mem
    exact none d (same ▸ mem)

/-- Fixing the text that a run ended with changes nothing, unless that run had no pass left. If the
run ended because a pass accepted no edit, one pass finds the same again, and no edits. -/
theorem verifyAndFix_again (l : Linter) (rules : List ConfiguredRule) (input : Text)
    (stops : l.ending rules input ≠ .exhausted) :
    let o := l.verifyAndFix rules input
    let again := l.verifyAndFix rules o.output
    again.output = o.output ∧ again.applied = 0 ∧ again.fixed = [] ∧
      (l.ending rules input = .settled →
        again.passes = 1 ∧ again.diagnostics = o.diagnostics ∧ again.skipped = o.skipped ∧
          ∀ d ∈ again.diagnostics, d.edit = none) := by
  intro o again
  have first : l.run rules l.options.maxPasses (.start input) = (l.ending rules input, o) :=
    Prod.ext rfl (verifyAndFix_eq_run input).symm
  obtain ⟨before, does⟩ := stop_of_run first stops
  obtain ⟨output, last, second, sameText, applied, fixed, facts⟩ := does.again
  obtain ⟨left, passes⟩ : ∃ left, l.options.maxPasses = left + 1 := by
    cases bound : l.options.maxPasses with
    | zero =>
      -- A run that is permitted no pass has no pass left.
      rw [bound] at first
      exact absurd (congrArg Prod.fst first).symm stops
    | succ left => exact ⟨left, rfl⟩
  have same : again = last := by
    rw [← output] at second
    show l.verifyAndFix rules o.output = last
    rw [verifyAndFix_eq_run, passes, run_of_stop second]
  rw [same]
  exact ⟨sameText.trans output.symm, applied, fixed, facts⟩

/-- A rule that removes empty statements. -/
def tidying : ConfiguredRule where
  rule := ⟨⟨"js/tidy", "", .style, some .code, [], [("m", "m")], none⟩, fun _ => .ok <|
    .reporting .emptyStatement fun _ site =>
      [(Report.new site.span "m").withEdit (.remove site.span)]⟩
  severity := .error
  options := []

/-- The first pass removes the only statement. -/
theorem first_tidying : ∃ after, Does (new .default) [tidying] (.start [';']) (.next after) ∧
    after.output = [] := by
  have output : ((new .default).recordSpliced [tidying] (.start [';'])).output = [] := by
    rw [recordSpliced, spliced, found_eq_runSlots]
    decide +kernel
  exact ⟨_, .edited (by decide +kernel) (by rw [found_eq_runSlots]; decide +kernel)
    (by rw [spliced, found_eq_runSlots]; decide +kernel), output⟩

/-- The first pass removes the only statement, and the second one finds nothing. -/
theorem run_tidying : ∃ last, (new .default).run [tidying] 10 (.start [';']) = (.settled, last) ∧
    last.output = [] := by
  obtain ⟨after, first, output⟩ := first_tidying
  have second : Does (new .default) [tidying] after (.stop .settled _) :=
    .settled (by rw [output]; decide +kernel) (by rw [found_eq_runSlots, output]; decide +kernel)
      (by rw [spliced, found_eq_runSlots, output]; decide +kernel)
  rw [run_of_next first, run_of_stop second]
  exact ⟨_, rfl, output⟩

theorem verifyAndFix_again_tidying :
    let l := new .default
    let o := l.verifyAndFix [tidying] [';']
    l.ending [tidying] [';'] = .settled ∧ o.output = [] ∧
      (l.verifyAndFix [tidying] o.output).output = [] ∧
      (l.verifyAndFix [tidying] o.output).passes = 1 := by
  intro l o
  obtain ⟨last, runs, empty⟩ := run_tidying
  have ending : l.ending [tidying] [';'] = .settled := congrArg Prod.fst runs
  have final : o = last := (verifyAndFix_eq_run _).trans (congrArg Prod.snd runs)
  have output : o.output = [] := by rw [final, empty]
  obtain ⟨same, -, -, settled⟩ := verifyAndFix_again l [tidying] [';'] (by simp [ending])
  exact ⟨ending, output, same.trans output, (settled ending).1⟩

end ScriptLint.Linter
