import ScriptLint.Execution
import ScriptLint.Proofs.Splice
import ScriptLint.Proofs.Linter.Pass

/-!
# Output that does not parse

Only the next pass parses the text that a pass made. A run that a pass stops therefore reports the
syntax error of its output. A run with no pass left does not: its diagnostics are all reported by
rules, about the text before (`verifyAndFix_broken`).
-/

namespace ScriptLint

theorem Summary.le_total (count : FileResult → Nat) {r : FileResult} {results : List FileResult}
    (mem : r ∈ results) : count r ≤ total count results := by
  induction results with
  | nil => cases mem
  | cons first rest ih =>
    rw [total, List.foldr_cons, ← total]
    rcases List.mem_cons.1 mem with rfl | later
    · omega
    · have := ih later
      omega

/-- A file with an unfixed error fails the whole run. -/
theorem Summary.exitCode_of_unfixed {r : FileResult} {results : List FileResult}
    (mem : r ∈ results) {d : Diagnostic} (among : d ∈ r.diagnostics) (error : d.isError = true)
    (unfixed : d.isUnfixed = true) : (ofResults results).exitCode = 1 := by
  have counted : 0 < r.unfixedErrors :=
    List.countP_pos_iff.2 ⟨d, among, by rw [error, unfixed]; rfl⟩
  have total : r.unfixedErrors ≤ (ofResults results).unfixedErrors := le_total _ mem
  unfold exitCode
  split
  · rename_i none
    omega
  · rfl

namespace Outcome

variable {o : Outcome} {e : SyntaxError}

theorem hasParseError_of_mem (mem : e.diagnostic o.output ∈ o.diagnostics) :
    o.hasParseError = true :=
  List.any_eq_true.2 ⟨_, mem, by rw [beq_iff_eq]; rfl⟩

theorem hasUnfixedErrors_of_mem (mem : e.diagnostic o.output ∈ o.diagnostics) :
    o.hasUnfixedErrors = true :=
  List.any_eq_true.2 ⟨_, mem, by rfl⟩

theorem exitCode_of_mem (mem : e.diagnostic o.output ∈ o.diagnostics) (path : FilePath)
    {results : List FileResult} (among : FileResult.ofOutcome path o ∈ results) :
    (Summary.ofResults results).exitCode = 1 := by
  have located : (e.diagnostic o.output).inFile path ∈
      (FileResult.ofOutcome path o).diagnostics :=
    List.mem_map_of_mem (List.mem_append_right o.fixed mem)
  exact Summary.exitCode_of_unfixed among located rfl rfl

/-- Whether all diagnostics are reported by rules. -/
def OfRules (o : Outcome) (rules : List ConfiguredRule) : Prop :=
  ∀ d ∈ o.diagnostics, ∃ r ∈ rules, d.rule = r.id

theorem OfRules.hasParseError_eq_false {rules : List ConfiguredRule} (named : o.OfRules rules)
    (others : ∀ r ∈ rules, r.id ≠ parseErrorId) : o.hasParseError = false := by
  refine List.any_eq_false.2 fun d mem => ?_
  obtain ⟨r, among, rule⟩ := named d mem
  simpa [rule] using others r among

end Outcome

namespace Linter

variable {l : Linter} {rules : List ConfiguredRule} {o last : Outcome} {e : SyntaxError}
  {es : List SyntaxError}

/-- A pass that stops at a text that does not parse says so. -/
theorem Does.reports {why : Stop} (does : Does l rules o (.stop why last))
    (broken : (l.parse last.output).errors = e :: es) :
    e.diagnostic last.output ∈ last.diagnostics := by
  -- A pass that stops leaves the text alone, so the other cases have parsed what is left.
  cases does with
  | unparsed errors =>
    obtain ⟨rfl, rfl⟩ := List.cons.inj (errors.symm.trans broken)
    exact List.mem_append_right _ (List.mem_singleton_self _)
  | crashed parses fails => cases parses.symm.trans broken
  | settled parses works nothing => cases parses.symm.trans broken

/-- After a pass that another one follows, the diagnostics are those of the rules. -/
theorem Does.ofRules {after : Outcome} (does : Does l rules o (.next after)) :
    after.passes = o.passes + 1 ∧ after.OfRules rules := by
  cases does with
  | edited parses works some =>
    refine ⟨rfl, fun x mem => ?_⟩
    obtain ⟨d, found, same⟩ := Splice.rule_of_mem mem
    obtain ⟨r, among, reported⟩ := Dispatch.run_reported found
    exact ⟨r, among, same.trans reported.rule⟩

/-- A run with no pass left made all its passes and parsed none of what the last one made. -/
theorem ofRules_of_run {left : Nat} (ends : l.run rules left o = (.exhausted, last))
    (start : o.OfRules rules) : last.passes = o.passes + left ∧ last.OfRules rules := by
  induction left generalizing o with
  | zero =>
    obtain ⟨-, rfl⟩ := Prod.mk.inj ends
    exact ⟨rfl, start⟩
  | succ left ih =>
    unfold run at ends
    have does : Does l rules o (l.pass rules o) := pass_does
    cases result : l.pass rules o with
    | stop why last' =>
      rw [result] at ends does
      obtain ⟨rfl, rfl⟩ := Prod.mk.inj ends
      cases does
    | next after =>
      rw [result] at ends does
      obtain ⟨one, named⟩ := does.ofRules
      obtain ⟨others, named⟩ := ih ends named
      exact ⟨by omega, named⟩

/-- What the outcome says of an output that does not parse. If a pass stopped the run, the syntax
error is among the diagnostics and fails the run. If no pass was left, only a rule that bears the
name of syntax errors could make it seem reported. -/
theorem verifyAndFix_broken (l : Linter) (rules : List ConfiguredRule) (input : Text)
    (e : SyntaxError) (es : List SyntaxError)
    (broken : (l.parse (l.verifyAndFix rules input).output).errors = e :: es) :
    let o := l.verifyAndFix rules input
    (l.ending rules input ≠ .exhausted →
      e.diagnostic o.output ∈ o.diagnostics ∧ o.hasParseError = true ∧ o.hasUnfixedErrors = true ∧
        ∀ path results, FileResult.ofOutcome path o ∈ results →
          (Summary.ofResults results).exitCode = 1) ∧
      (l.ending rules input = .exhausted →
        o.passes = l.options.maxPasses ∧ (∀ d ∈ o.diagnostics, ∃ r ∈ rules, d.rule = r.id) ∧
          ((∀ r ∈ rules, r.id ≠ parseErrorId) → o.hasParseError = false)) := by
  intro o
  have ends : l.run rules l.options.maxPasses (.start input) = (l.ending rules input, o) :=
    Prod.ext rfl (verifyAndFix_eq_run input).symm
  constructor
  · intro stops
    obtain ⟨before, does⟩ := stop_of_run ends stops
    have listed : e.diagnostic o.output ∈ o.diagnostics := does.reports broken
    exact ⟨listed, Outcome.hasParseError_of_mem listed, Outcome.hasUnfixedErrors_of_mem listed,
      fun path _ among => Outcome.exitCode_of_mem listed path among⟩
  · intro exhausted
    rw [exhausted] at ends
    have start : (Outcome.start input).OfRules rules := by simp [Outcome.OfRules, Outcome.start]
    obtain ⟨passes, named⟩ := ofRules_of_run ends start
    exact ⟨passes.trans (Nat.zero_add _), named, named.hasParseError_eq_false⟩

/-- A rule that opens a parenthesis behind every name. -/
def breaking : ConfiguredRule where
  rule := ⟨⟨"js/breaks", "", .style, some .code, [], [("m", "m")], none⟩, fun _ => .ok <|
    .reporting .identifier fun _ site =>
      [(Report.new site.span "m").withEdit (.insertAfter site.span ['('])]⟩
  severity := .error
  options := []

/-- The first pass makes a text that does not parse, and has no diagnostic left that is unfixed. -/
theorem first_breaking (bound : Nat) : ∃ after,
    Does (new ⟨bound, .null⟩) [breaking] (.start ['x', ';']) (.next after) ∧
      after.output = ['x', '(', ';'] ∧ after.hasParseError = false ∧
      after.hasUnfixedErrors = false ∧ after.fixed = [] ∧ after.error = none := by
  have parses : (ScriptLint.parse ['x', ';']).errors = [] := by decide +kernel
  have found : (new ⟨bound, .null⟩).found [breaking] (.start ['x', ';']) =
      Dispatch.runSlots [breaking] .null ⟨['x', ';'], (ScriptLint.parse ['x', ';']).tree⟩ :=
    found_eq_runSlots
  have spliced : (new ⟨bound, .null⟩).spliced [breaking] (.start ['x', ';']) =
      Splice.run ['x', ';'] (Dispatch.runSlots [breaking] .null
        ⟨['x', ';'], (ScriptLint.parse ['x', ';']).tree⟩).diagnostics := by
    rw [← found]
    rfl
  have works : ((new ⟨bound, .null⟩).found [breaking] (.start ['x', ';'])).error = none := by
    rw [found]
    decide +kernel
  have edits : ((new ⟨bound, .null⟩).spliced [breaking] (.start ['x', ';'])).applied ≠ 0 := by
    rw [spliced]
    decide +kernel
  have output : ((new ⟨bound, .null⟩).spliced [breaking] (.start ['x', ';'])).output =
      ['x', '(', ';'] := by
    rw [spliced]
    decide +kernel
  have reported : ((new ⟨bound, .null⟩).spliced [breaking] (.start ['x', ';'])).diagnostics.any
      (fun d => d.rule == parseErrorId) = false := by
    rw [spliced]
    decide +kernel
  have unfixed : ((new ⟨bound, .null⟩).spliced [breaking] (.start ['x', ';'])).diagnostics.any
      (fun d => d.isError && d.isUnfixed) = false := by
    rw [spliced]
    decide +kernel
  exact ⟨_, .edited parses works edits, output, reported, unfixed, rfl, works⟩

theorem errors_breaking : (ScriptLint.parse ['x', '(', ';']).errors ≠ [] := by
  have found : (programBody (lex ['x', '(', ';']).lexemes).errors ≠ [] := by decide +kernel
  obtain ⟨e, mem⟩ := List.exists_mem_of_ne_nil _ found
  exact List.ne_nil_of_mem (List.mem_mergeSort.2 (List.mem_append_right _ mem))

/-- With a second pass, the text that the first one broke is reported. -/
theorem verifyAndFix_broken_breaking :
    let l := new ⟨2, .null⟩
    let o := l.verifyAndFix [breaking] ['x', ';']
    (l.parse o.output).errors ≠ [] ∧ l.ending [breaking] ['x', ';'] ≠ .exhausted ∧
      o.hasParseError = true ∧ (Summary.ofResults [.ofOutcome ⟨[]⟩ o]).exitCode = 1 := by
  intro l o
  obtain ⟨after, first, output, -⟩ := first_breaking 2
  obtain ⟨e, es, errors⟩ := List.exists_cons_of_ne_nil errors_breaking
  have second : Does l [breaking] after (.stop .unparsed (stopAt after e)) :=
    .unparsed (output ▸ errors)
  have runs : l.run [breaking] 2 (.start ['x', ';']) = (.unparsed, stopAt after e) := by
    rw [run_of_next first, run_of_stop second]
  have final : o = stopAt after e := (verifyAndFix_eq_run _).trans (congrArg Prod.snd runs)
  have broken : (l.parse o.output).errors = e :: es := by
    rw [final]
    exact output ▸ errors
  have stops : l.ending [breaking] ['x', ';'] ≠ .exhausted := by
    have ending : l.ending [breaking] ['x', ';'] = .unparsed := congrArg Prod.fst runs
    simp [ending]
  obtain ⟨-, listed, -, exits⟩ := (verifyAndFix_broken l [breaking] ['x', ';'] e es broken).1 stops
  exact ⟨broken ▸ List.cons_ne_nil e es, stops, listed, exits _ _ (List.mem_singleton_self _)⟩

/-- With one pass only, the broken text is the output, and nothing says so. -/
theorem verifyAndFix_breaking_unreported :
    let l := new ⟨1, .null⟩
    let o := l.verifyAndFix [breaking] ['x', ';']
    o.output = ['x', '(', ';'] ∧ (l.parse o.output).errors ≠ [] ∧ o.hasParseError = false ∧
      o.hasUnfixedErrors = false ∧ (Summary.ofResults [.ofOutcome ⟨[]⟩ o]).exitCode = 0 := by
  intro l o
  obtain ⟨after, first, output, reported, unfixed, fixed, works⟩ := first_breaking 1
  have runs : l.run [breaking] 1 (.start ['x', ';']) = (.exhausted, after) := by
    rw [run_of_next first]
    rfl
  have final : o = after := (verifyAndFix_eq_run _).trans (congrArg Prod.snd runs)
  have none : after.diagnostics.countP (fun d => d.isError && d.isUnfixed) = 0 :=
    List.countP_eq_zero.2 (List.any_eq_false.1 unfixed)
  have exits : (Summary.ofResults [.ofOutcome ⟨[]⟩ after]).exitCode = 0 := by
    simp only [Summary.exitCode, Summary.ofResults, Summary.total, FileResult.unfixedErrors,
      FileResult.ofOutcome, Outcome.allDiagnostics, fixed, works, List.nil_append, List.foldr_cons,
      List.foldr_nil, List.countP_map, List.countP_cons, List.countP_nil]
    exact if_pos ⟨none, rfl⟩
  rw [final]
  exact ⟨output, output ▸ errors_breaking, reported, unfixed, exits⟩

end Linter

end ScriptLint
