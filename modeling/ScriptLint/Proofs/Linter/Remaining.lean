import ScriptLint.Proofs.Linter.BrokenOutput
import ScriptLint.Proofs.Linter.Refixing

/-!
# Problems left in the output

A run that stops because a pass accepted no edit reports what the rules find in its output, and all
of it is unfixed. A run with no pass left reports what they found in the text before its last edits
(`verifyAndFix_remaining`): problems that these edits make, or make anew, are not among it.
-/

namespace ScriptLint.Linter

variable {l : Linter} {rules : List ConfiguredRule} {o last : Outcome}

/-- What verifying records of a text is what a pass over it finds. -/
theorem verify_of_parses {text : Text} (parses : (l.parse text).errors = []) :
    l.verify rules text = record (.start text) (l.found rules (.start text)) := by
  simp only [verify, parses]
  rfl

theorem diagnostics_verify {text : Text} (parses : (l.parse text).errors = []) :
    (l.verify rules text).diagnostics = (l.found rules (.start text)).diagnostics := by
  rw [verify_of_parses parses]
  rfl

theorem Does.lists {why : Stop} (does : Does l rules o (.stop why last))
    (parses : (l.parse last.output).errors = []) (works : last.error = none) :
    ∀ d ∈ (l.verify rules last.output).diagnostics, d ∈ last.diagnostics ∧ d.isUnfixed = true := by
  cases does with
  | unparsed errors => cases errors.symm.trans parses
  | crashed parses fails => cases fails.symm.trans works
  | settled parses works nothing =>
    have same := (edit_of_applied_eq_zero nothing).1
    intro d mem
    have found : d ∈ (l.found rules o).diagnostics := by
      rw [diagnostics_verify parses] at mem
      exact mem
    have kept : d ∈ (l.spliced rules o).diagnostics := by rwa [same]
    exact ⟨kept, by simpa [Diagnostic.isUnfixed] using found_fresh d found⟩

/-- What a pass that another one follows reports, and what it makes of its text. -/
theorem Does.supersedes {after : Outcome} (does : Does l rules o (.next after)) :
    (l.parse o.output).errors = [] ∧
      let s := Splice.run o.output (l.verify rules o.output).diagnostics
      s.applied ≠ 0 ∧ after.diagnostics = s.diagnostics ∧ after.output = s.output := by
  cases does with
  | edited parses works some =>
    rw [diagnostics_verify parses]
    exact ⟨parses, some, rfl, rfl⟩

/-- A run with no pass left made edits in its last pass. -/
theorem last_of_exhausted {left : Nat} (ends : l.run rules (left + 1) o = (.exhausted, last)) :
    ∃ before, Does l rules before (.next last) := by
  induction left generalizing o with
  | zero =>
    rcases run_succ_cases ends with stop | ⟨after, does, behind⟩
    · exact absurd rfl stop.stops
    · obtain ⟨-, rfl⟩ := Prod.mk.inj behind
      exact ⟨o, does⟩
  | succ left ih =>
    rcases run_succ_cases ends with stop | ⟨after, -, behind⟩
    · exact absurd rfl stop.stops
    · exact ih behind

theorem hasUnfixedErrors_of_remaining {d : Diagnostic} (mem : d ∈ o.diagnostics)
    (unfixed : d.isUnfixed = true) (error : d.isError = true) :
    o.hasUnfixedErrors = true ∧ ∀ path results, FileResult.ofOutcome path o ∈ results →
      (Summary.ofResults results).exitCode = 1 := by
  refine ⟨List.any_eq_true.2 ⟨d, mem, by rw [error, unfixed]; rfl⟩, fun path results among => ?_⟩
  have located : d.inFile path ∈ (FileResult.ofOutcome path o).diagnostics :=
    List.mem_map_of_mem (List.mem_append_right o.fixed mem)
  exact Summary.exitCode_of_unfixed among located error unfixed

theorem exitCode_of_nothing_left (nothing : o.hasUnfixedErrors = false) (fixed : o.fixed = [])
    (works : o.error = none) : (Summary.ofResults [.ofOutcome ⟨[]⟩ o]).exitCode = 0 := by
  have count : o.diagnostics.countP (fun d => d.isError && d.isUnfixed) = 0 :=
    List.countP_eq_zero.2 (List.any_eq_false.1 nothing)
  simp only [Summary.exitCode, Summary.ofResults, Summary.total, FileResult.unfixedErrors,
    FileResult.ofOutcome, Outcome.allDiagnostics, fixed, works, List.nil_append, List.foldr_cons,
    List.foldr_nil, List.countP_map, List.countP_cons, List.countP_nil]
  exact if_pos ⟨count, rfl⟩

/-- What the outcome says of an output that parses. If a pass stopped the run and no rule failed,
every problem that verifying finds in the output is among the diagnostics, unfixed, and an error
among these problems fails the run. If no pass was left, the diagnostics are those that verifying
finds in the text before the last edits, with what became of their edits. -/
theorem verifyAndFix_remaining (l : Linter) (rules : List ConfiguredRule) (input : Text)
    (works : (l.verifyAndFix rules input).error = none)
    (parses : (l.parse (l.verifyAndFix rules input).output).errors = []) :
    let o := l.verifyAndFix rules input
    (l.ending rules input ≠ .exhausted →
      (∀ d ∈ (l.verify rules o.output).diagnostics, d ∈ o.diagnostics ∧ d.isUnfixed = true) ∧
        ((∃ d ∈ (l.verify rules o.output).diagnostics, d.isError = true) →
          o.hasUnfixedErrors = true ∧ ∀ path results, FileResult.ofOutcome path o ∈ results →
            (Summary.ofResults results).exitCode = 1)) ∧
      (l.ending rules input = .exhausted → 0 < l.options.maxPasses →
        ∃ before, (l.parse before).errors = [] ∧
          let s := Splice.run before (l.verify rules before).diagnostics
          s.applied ≠ 0 ∧ o.diagnostics = s.diagnostics ∧ o.output = s.output) := by
  intro o
  have ends : l.run rules l.options.maxPasses (.start input) = (l.ending rules input, o) :=
    Prod.ext rfl (verifyAndFix_eq_run input).symm
  constructor
  · intro stops
    obtain ⟨before, does⟩ := stop_of_run ends stops
    have listed := does.lists parses works
    refine ⟨listed, fun ⟨d, mem, error⟩ => ?_⟩
    obtain ⟨among, unfixed⟩ := listed d mem
    exact hasUnfixedErrors_of_remaining among unfixed error
  · intro exhausted permitted
    obtain ⟨left, passes⟩ := Nat.exists_eq_succ_of_ne_zero (Nat.ne_of_gt permitted)
    rw [exhausted, passes] at ends
    obtain ⟨before, does⟩ := last_of_exhausted ends
    exact ⟨before.output, does.supersedes⟩

/-- A rule that objects to every name and offers no edit. -/
def objecting : ConfiguredRule where
  rule := ⟨⟨"js/objects", "", .style, none, [], [("m", "m")], none⟩, fun _ => .ok <|
    .reporting .identifier fun _ site => [Report.new site.span "m"]⟩
  severity := .error
  options := []

/-- The first pass removes the empty statement, and the second one finds the name only. -/
theorem run_objecting : ∃ last,
    (new ⟨2, .null⟩).run [tidying, objecting] 2 (.start ['x', ';', ';']) = (.settled, last) ∧
      last.output = ['x', ';'] ∧ last.error = none := by
  have first : Does (new ⟨2, .null⟩) [tidying, objecting] (.start ['x', ';', ';']) (.next _) :=
    .edited (by decide +kernel) (by rw [found_eq_runSlots]; decide +kernel)
      (by rw [spliced, found_eq_runSlots]; decide +kernel)
  have output : ((new ⟨2, .null⟩).recordSpliced [tidying, objecting]
      (.start ['x', ';', ';'])).output = ['x', ';'] := by
    rw [recordSpliced, spliced, found_eq_runSlots]
    decide +kernel
  generalize recordSpliced _ _ _ = after at first output
  have works : ((new ⟨2, .null⟩).found [tidying, objecting] after).error = none := by
    rw [found_eq_runSlots, output]
    decide +kernel
  have second : Does (new ⟨2, .null⟩) [tidying, objecting] after (.stop .settled _) :=
    .settled (by rw [output]; decide +kernel) works
      (by rw [spliced, found_eq_runSlots, output]; decide +kernel)
  rw [run_of_next first, run_of_stop second]
  exact ⟨_, rfl, output, works⟩

theorem errors_objecting : (ScriptLint.parse ['x', ';']).errors = [] := by decide +kernel

theorem error_objecting : ∃ d ∈ ((new ⟨2, .null⟩).verify [tidying, objecting] ['x', ';']).diagnostics,
    d.isError = true := by
  rw [diagnostics_verify errors_objecting, found_eq_runSlots]
  decide +kernel

/-- With two passes the name is still listed when the empty statement is gone. -/
theorem verifyAndFix_remaining_objecting :
    let l := new ⟨2, .null⟩
    let o := l.verifyAndFix [tidying, objecting] ['x', ';', ';']
    o.error = none ∧ (l.parse o.output).errors = [] ∧
      l.ending [tidying, objecting] ['x', ';', ';'] ≠ .exhausted ∧ o.output = ['x', ';'] ∧
      o.hasUnfixedErrors = true := by
  intro l o
  obtain ⟨last, runs, output, works⟩ := run_objecting
  have final : o = last := (verifyAndFix_eq_run _).trans (congrArg Prod.snd runs)
  have ending : l.ending [tidying, objecting] ['x', ';', ';'] = .settled := congrArg Prod.fst runs
  have text : o.output = ['x', ';'] := by rw [final, output]
  have fine : o.error = none := by rw [final, works]
  have parses : (l.parse o.output).errors = [] := by rw [text]; exact errors_objecting
  have stops : l.ending [tidying, objecting] ['x', ';', ';'] ≠ .exhausted := by simp [ending]
  obtain ⟨-, fails⟩ := (verifyAndFix_remaining l [tidying, objecting] ['x', ';', ';'] fine parses).1
    stops
  refine ⟨fine, parses, stops, text, (fails ?_).1⟩
  show ∃ d ∈ (l.verify [tidying, objecting] o.output).diagnostics, d.isError = true
  rw [text]
  exact error_objecting

/-- A rule that makes every name longer. -/
def growing : ConfiguredRule where
  rule := ⟨⟨"js/grows", "", .style, some .code, [], [("m", "m")], none⟩, fun _ => .ok <|
    .reporting .identifier fun _ site =>
      [(Report.new site.span "m").withEdit (.insertAfter site.span ['x'])]⟩
  severity := .error
  options := []

/-- The pass makes the name longer, and has no diagnostic left that is unfixed. -/
theorem first_growing : ∃ after,
    Does (new ⟨1, .null⟩) [growing] (.start ['x', ';']) (.next after) ∧
      after.output = ['x', 'x', ';'] ∧ after.error = none ∧ after.fixed = [] ∧
      after.diagnostics.all (fun d => d.location.length == 1 && ! d.isUnfixed) = true := by
  have spliced : (new ⟨1, .null⟩).spliced [growing] (.start ['x', ';']) =
      Splice.run ['x', ';'] (Dispatch.runSlots [growing] .null
        ⟨['x', ';'], (ScriptLint.parse ['x', ';']).tree⟩).diagnostics := by
    rw [Linter.spliced, found_eq_runSlots]
    rfl
  have works : ((new ⟨1, .null⟩).found [growing] (.start ['x', ';'])).error = none := by
    rw [found_eq_runSlots]
    decide +kernel
  have edits : ((new ⟨1, .null⟩).spliced [growing] (.start ['x', ';'])).applied ≠ 0 := by
    rw [spliced]
    decide +kernel
  have output : ((new ⟨1, .null⟩).spliced [growing] (.start ['x', ';'])).output =
      ['x', 'x', ';'] := by
    rw [spliced]
    decide +kernel
  have reported : ((new ⟨1, .null⟩).spliced [growing] (.start ['x', ';'])).diagnostics.all
      (fun d => d.location.length == 1 && ! d.isUnfixed) = true := by
    rw [spliced]
    decide +kernel
  exact ⟨_, .edited errors_objecting works edits, output, works, rfl, reported⟩

theorem errors_growing : (ScriptLint.parse ['x', 'x', ';']).errors = [] := by decide +kernel

/-- The longer name is an error again. -/
theorem error_growing : ∃ d ∈ ((new ⟨1, .null⟩).verify [growing] ['x', 'x', ';']).diagnostics,
    d.isError = true ∧ d.location.length = 2 := by
  rw [diagnostics_verify errors_growing, found_eq_runSlots]
  decide +kernel

/-- With one pass only, the longer name in the output is an error that is not listed, and nothing
says that an error is left. -/
theorem verifyAndFix_growing_unlisted :
    let l := new ⟨1, .null⟩
    let o := l.verifyAndFix [growing] ['x', ';']
    o.error = none ∧ o.output = ['x', 'x', ';'] ∧ (l.parse o.output).errors = [] ∧
      (∃ d ∈ (l.verify [growing] o.output).diagnostics, d.isError = true ∧
        ∀ x ∈ o.diagnostics, x.location ≠ d.location) ∧
      o.hasUnfixedErrors = false ∧ (Summary.ofResults [.ofOutcome ⟨[]⟩ o]).exitCode = 0 := by
  intro l o
  obtain ⟨after, first, output, works, fixed, reported⟩ := first_growing
  have runs : l.run [growing] 1 (.start ['x', ';']) = (.exhausted, after) := by
    rw [run_of_next first]
    rfl
  have final : o = after := (verifyAndFix_eq_run _).trans (congrArg Prod.snd runs)
  have listed (x : Diagnostic) (mem : x ∈ after.diagnostics) :
      x.location.length = 1 ∧ x.isUnfixed = false := by
    simpa using List.all_eq_true.1 reported x mem
  have unfixed : after.hasUnfixedErrors = false :=
    List.any_eq_false.2 fun x mem => by simp [(listed x mem).2]
  obtain ⟨d, mem, error, long⟩ := error_growing
  have missing (x : Diagnostic) (among : x ∈ after.diagnostics) : x.location ≠ d.location := by
    intro same
    have short := (listed x among).1
    rw [same, long] at short
    cases short
  rw [final]
  refine ⟨works, output, output ▸ errors_growing, ⟨d, output ▸ mem, error, missing⟩, unfixed, ?_⟩
  exact exitCode_of_nothing_left unfixed fixed works

end ScriptLint.Linter
