import ScriptLint.Proofs.Dispatch.InOrder
import ScriptLint.Proofs.Linter.Refixing
import ScriptLint.Proofs.Linter.Texts

/-!
# Runs that crash

A pass in which a rule fails makes no edit and settles none. What it leaves is the text it was run on,
all that the rules reported about that text, and the diagnostics that the passes before it fixed
(`verifyAndFix_crashed`): these move to the fixed ones before the failure is looked at.
-/

namespace ScriptLint.Linter

/-- The diagnostics whose edits a pass over a text makes. -/
def fixedIn (l : Linter) (rules : List ConfiguredRule) (text : Text) : List Diagnostic :=
  let found := l.dispatch rules text (l.parse text).tree
  (Splice.run text found.diagnostics).diagnostics.filter fun d => d.status == .applied

variable {l : Linter} {rules : List ConfiguredRule} {o last : Outcome} {e : LintError}

/-- The diagnostics of an outcome whose edits are made, those of its last pass included. -/
def allFixed (o : Outcome) : List Diagnostic :=
  o.fixed ++ o.diagnostics.filter fun d => d.status == .applied

/-- A pass that another one follows adds the diagnostics whose edits it makes. -/
theorem Does.allFixed {after : Outcome} (does : Does l rules o (.next after)) :
    Linter.allFixed after = Linter.allFixed o ++ l.fixedIn rules o.output := by
  cases does with
  | edited parses works some => rfl

theorem Leads.allFixed {earlier : List Text} (leads : Leads l rules earlier o last) :
    Linter.allFixed last = Linter.allFixed o ++ earlier.flatMap (l.fixedIn rules) := by
  induction leads with
  | refl o => simp
  | next does behind ih => rw [ih, does.allFixed, List.flatMap_cons, List.append_assoc]

theorem found_unskipped : ∀ d ∈ (l.found rules o).diagnostics, d.status ≠ .skippedConflict := by
  intro d mem
  obtain ⟨r, _, reported⟩ := found_reported d mem
  rw [reported.status]
  cases d.edit <;> simp

/-- What the rules find is what they report when each of them is asked in turn at every step. -/
theorem diagnostics_found : (l.found rules o).diagnostics =
    (Dispatch.findings l.options.settings ⟨o.output, (l.parse o.output).tree⟩
      rules.zipIdx).filterMap fun f => f.1.diagnostic? := by
  have same : Dispatch.run rules l.options.settings ⟨o.output, (l.parse o.output).tree⟩ = _ :=
    Dispatch.run_eq_ofFindings rules.zipIdx (List.zipIdx_map_fst 0 rules)
  rw [found, dispatch, same, Dispatch.ofFindings, List.filterMap_map]
  rfl

/-- A run that ends with a failure ends with a pass in which a rule failed. -/
theorem crash_of_run {left : Nat} {why : Stop} (ends : l.run rules left o = (why, last))
    (works : o.error = none) (crashes : last.error = some e) :
    ∃ earlier before, Leads l rules earlier o before ∧
      l.texts rules left o = earlier ++ [before.output] ∧ (l.parse before.output).errors = [] ∧
      (l.found rules before).error = some e ∧ last = record before (l.found rules before) := by
  obtain ⟨earlier, before, leads, ⟨-, rfl, -⟩ | ⟨stop, texts⟩⟩ := run_cases ends
  · -- With no pass left, all passes went on, so none of them met a failure.
    cases (leads.error works).symm.trans crashes
  · have works := leads.error works
    refine ⟨earlier, before, leads, texts, ?_⟩
    cases stop with
    | unparsed errors => cases works.symm.trans crashes
    | crashed parses fails => exact ⟨parses, crashes, rfl⟩
    | settled parses works nothing => cases works.symm.trans crashes

/-- What is left by a run that a failure of a rule ends: the output is the text that the last pass was
run on, which is the input with the edits of the passes before it made; the diagnostics are all that
the rules report about this text, none of them settled; and what the passes before it fixed is there,
pass by pass. -/
theorem verifyAndFix_crashed (l : Linter) (rules : List ConfiguredRule) (input : Text)
    (e : LintError) (crashes : (l.verifyAndFix rules input).error = some e) :
    let o := l.verifyAndFix rules input
    let texts := l.texts rules l.options.maxPasses (.start input)
    let source : Source := ⟨o.output, (l.parse o.output).tree⟩
    let found := Dispatch.run rules l.options.settings source
    texts = List.iterate (l.edited rules) input o.passes ∧
      ∃ earlier, texts = earlier ++ [o.output] ∧ (l.parse o.output).errors = [] ∧
        found.error = some e ∧ o.diagnostics = found.diagnostics ∧
        o.diagnostics = (Dispatch.findings l.options.settings source rules.zipIdx).filterMap
          (fun f => f.1.diagnostic?) ∧
        (∀ d ∈ o.diagnostics, d.status ≠ .applied ∧ d.status ≠ .skippedConflict) ∧
        o.fixed = earlier.flatMap (l.fixedIn rules) := by
  intro o
  have ends : l.run rules l.options.maxPasses (.start input) = (l.ending rules input, o) :=
    Prod.ext rfl (verifyAndFix_eq_run input).symm
  obtain ⟨earlier, before, leads, parsed, parses, fails, final⟩ := crash_of_run ends rfl crashes
  -- The pass that failed has left the text alone, and moved what was fixed before it.
  have output : o.output = before.output := by rw [final]; rfl
  have passes : o.passes = earlier.length + 1 := by
    have counted : o.passes = before.passes + 1 := by rw [final]; rfl
    rw [counted, leads.passes, show (Outcome.start input).passes = 0 from rfl, Nat.zero_add]
  have diagnostics : o.diagnostics = (l.found rules before).diagnostics := by rw [final]; rfl
  have fixed : o.fixed = earlier.flatMap (l.fixedIn rules) := by
    have moved : o.fixed = allFixed before := by rw [final]; rfl
    exact moved.trans leads.allFixed
  have found : l.found rules o = l.found rules before := by rw [Linter.found, output, Linter.found]
  refine ⟨?_, earlier, ?_, ?_, ?_, ?_, ?_, ?_, fixed⟩
  · rw [parsed, leads.texts_eq_iterate, passes]
    rfl
  · rw [parsed, output]
  · rw [output, parses]
  · exact (congrArg Dispatch.error found).trans fails
  · exact diagnostics.trans (congrArg Dispatch.diagnostics found.symm)
  · rw [diagnostics, ← found, diagnostics_found]
  · rw [diagnostics]
    exact fun d mem => ⟨found_fresh d mem, found_unskipped d mem⟩

/-- A rule that fails in a file without a statement. -/
def failing : ConfiguredRule where
  rule := ⟨⟨"js/fails", "", .style, none, [], [("m", "m")], none⟩, fun _ => .ok
    { State := Unit
      start := ()
      subscriptions := [⟨.program, .enter, fun _ site state =>
        if site.span.length = 0 then .fail (.gaveUp ["nothing there"]) else .done state⟩] }⟩
  severity := .error
  options := []

/-- The first pass removes the only statement, and in the second one the rule fails. -/
theorem run_failing : ∃ last,
    (new .default).run [tidying, failing] 10 (.start [';']) = (.crashed, last) ∧
      last.output = [] ∧
      last.error = some (.ruleCrash "js/fails" (.gaveUp ["nothing there"])) ∧ last.passes = 2 := by
  have first : Does (new .default) [tidying, failing] (.start [';']) (.next _) :=
    .edited (by decide +kernel) (by rw [found_eq_runSlots]; decide +kernel)
      (by rw [spliced, found_eq_runSlots]; decide +kernel)
  have output : ((new .default).recordSpliced [tidying, failing] (.start [';'])).output = [] := by
    rw [recordSpliced, spliced, found_eq_runSlots]
    decide +kernel
  have passes : ((new .default).recordSpliced [tidying, failing] (.start [';'])).passes = 1 := rfl
  generalize recordSpliced _ _ _ = after at first output passes
  have fails : ((new .default).found [tidying, failing] after).error =
      some (.ruleCrash "js/fails" (.gaveUp ["nothing there"])) := by
    rw [found_eq_runSlots, output]
    decide +kernel
  have second : Does (new .default) [tidying, failing] after (.stop .crashed _) :=
    .crashed (by rw [output]; decide +kernel) fails
  rw [run_of_next first, run_of_stop second]
  exact ⟨_, rfl, output, fails, congrArg (· + 1) passes⟩

/-- The empty statement is gone and fixed, and the pass over the empty text has failed. -/
theorem verifyAndFix_crashed_failing :
    let l := new .default
    let o := l.verifyAndFix [tidying, failing] [';']
    o.error = some (.ruleCrash "js/fails" (.gaveUp ["nothing there"])) ∧ o.output = [] ∧
      l.texts [tidying, failing] 10 (.start [';']) = [[';'], []] ∧ o.diagnostics = [] ∧
      o.fixed.map Diagnostic.rule = ["js/tidy"] := by
  intro l o
  obtain ⟨last, runs, output, fails, passes⟩ := run_failing
  have final : o = last := (verifyAndFix_eq_run _).trans (congrArg Prod.snd runs)
  have crashes : o.error = some (.ruleCrash "js/fails" (.gaveUp ["nothing there"])) := by
    rw [final, fails]
  obtain ⟨texts, earlier, parts, -, -, found, -, -, fixed⟩ :=
    verifyAndFix_crashed l [tidying, failing] [';'] _ crashes
  have empty : o.output = [] := by rw [final, output]
  have two : o.passes = 2 := by rw [final, passes]
  have whole : earlier ++ [o.output] = [[';']] ++ [l.edited [tidying, failing] [';']] := by
    rw [← parts, texts, show (l.verifyAndFix _ _).passes = 2 from two]
    rfl
  obtain ⟨first, -⟩ := List.append_inj' whole rfl
  refine ⟨crashes, empty, ?_, ?_, ?_⟩
  · have all : l.texts [tidying, failing] 10 (.start [';']) = [[';']] ++ [o.output] := first ▸ parts
    rw [all, empty]
    rfl
  · rw [show o.diagnostics = _ from found, Dispatch.run_eq_runSlots, show o.output = [] from empty]
    decide +kernel
  · rw [show o.fixed = _ from fixed, first, List.flatMap_singleton, fixedIn, dispatch,
      Dispatch.run_eq_runSlots]
    decide +kernel

end ScriptLint.Linter
