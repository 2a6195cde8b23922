import ScriptLint.Proofs.Linter.BrokenOutput
import ScriptLint.Proofs.Linter.Remaining
import ScriptLint.Proofs.Patch

/-!
# Runs that one pass settles

If the text that the first pass makes parses and the rules find nothing more to mend in it, the run
ends there (`run_of_settled`): with this text, with what verifying finds in it, and with what the
first pass has mended. It does not matter whether the first pass made any edit. This is so for rules
whose edits are those of patches (`Mends`), if there is nothing left to put into the patched text
(`Mends.run`).
-/

namespace ScriptLint

namespace Linter

variable {l : Linter} {rules : List ConfiguredRule} {input out : Text}

theorem run_of_settled (bound : 2 ≤ l.options.maxPasses) (parses : (l.parse input).errors = [])
    (works : (l.found rules (.start input)).error = none)
    (output : (l.spliced rules (.start input)).output = out) (clean : (l.parse out).errors = [])
    (worksAgain : (l.found rules (.start out)).error = none)
    (nothing : ∀ d ∈ (l.found rules (.start out)).diagnostics, d.edit = none) :
    ∃ last, l.run rules l.options.maxPasses (.start input) = (.settled, last) ∧
      last.output = out ∧ last.error = none ∧
      last.diagnostics = (l.verify rules out).diagnostics ∧
      last.fixed = (l.spliced rules (.start input)).diagnostics.filter (·.status == .applied) ∧
      last.applied = (l.spliced rules (.start input)).applied := by
  obtain ⟨more, passes⟩ := Nat.exists_eq_add_of_le' bound
  rw [passes, diagnostics_verify clean]
  by_cases edited : (l.spliced rules (.start input)).applied = 0
  · rw [run_of_stop (.settled parses works edited)]
    have same : input = out := (Splice.output_of_applied_eq_zero edited).symm.trans output
    have found := (edit_of_applied_eq_zero edited).1
    refine ⟨_, rfl, same, works, by rw [← same]; exact found, ?_, edited.symm⟩
    rw [found]
    exact (List.filter_eq_nil_iff.2 fun d mem => by simpa using found_fresh d mem).symm
  · rw [run_of_next (.edited parses works edited)]
    let after := l.recordSpliced rules (.start input)
    have same : after.output = out := output
    have again : l.found rules after = l.found rules (.start out) := by
      rw [found, same]
      rfl
    have none : (l.spliced rules after).applied = 0 := by
      refine Splice.applied_eq_zero_iff.2 fun d mem e carried => ?_
      rw [nothing d (again ▸ mem)] at carried
      cases carried
    rw [run_of_stop (.settled (same ▸ clean) (again ▸ worksAgain) none)]
    have error : (l.found rules after).error = Option.none := again ▸ worksAgain
    refine ⟨_, rfl, output, error, ?_, rfl, Nat.zero_add _⟩
    rw [← again]
    exact (edit_of_applied_eq_zero none).1

/-- Whether no rule fails on a text that parses, and what they find to mend in it are the edits of
patches, in some order. -/
structure Mends (l : Linter) (rules : List ConfiguredRule) (patches : Text → List Patch) : Prop where
  source (text : Text) : Patch.source (patches text) = text
  works {text : Text} (parses : (l.parse text).errors = []) :
    (l.found rules (.start text)).error = none
  edits {text : Text} (parses : (l.parse text).errors = []) :
    ((l.found rules (.start text)).diagnostics.filterMap Diagnostic.edit).Perm
      (Patch.edits 0 (patches text))

namespace Mends

variable {patches : Text → List Patch}

/-- Nothing is found to mend where nothing is to be put in place of a part of the text. -/
theorem edit_eq_none (mends : l.Mends rules patches) (clean : (l.parse out).errors = [])
    (settled : Patch.edits 0 (patches out) = []) :
    ∀ d ∈ (l.found rules (.start out)).diagnostics, d.edit = none := by
  have edits := mends.edits clean
  rwa [settled, List.perm_nil, List.filterMap_eq_nil_iff] at edits

/-- One pass makes the patched text, if no two edits have one span. -/
theorem output_spliced (mends : l.Mends rules patches) (parses : (l.parse input).errors = [])
    (distinct : ((Patch.edits 0 (patches input)).map Edit.span).Nodup) :
    (l.spliced rules (.start input)).output = Patch.output (patches input) := by
  have output := Splice.output_of_perm (mends.edits parses) distinct
  rwa [mends.source] at output

theorem run (mends : l.Mends rules patches) (bound : 2 ≤ l.options.maxPasses)
    (parses : (l.parse input).errors = [])
    (distinct : ((Patch.edits 0 (patches input)).map Edit.span).Nodup)
    (output : Patch.output (patches input) = out) (clean : (l.parse out).errors = [])
    (settled : Patch.edits 0 (patches out) = []) :
    ∃ last, l.run rules l.options.maxPasses (.start input) = (.settled, last) ∧
      last.output = out ∧ last.error = none ∧
      last.diagnostics = (l.found rules (.start out)).diagnostics ∧
      last.fixed = (l.spliced rules (.start input)).diagnostics.filter (·.status == .applied) ∧
      last.applied = (l.spliced rules (.start input)).applied := by
  have last := run_of_settled bound parses (mends.works parses)
    ((mends.output_spliced parses distinct).trans output) clean (mends.works clean)
    (mends.edit_eq_none clean settled)
  rwa [diagnostics_verify clean] at last

end Mends

end Linter

end ScriptLint
