import ScriptLint.Proofs.Linter.Remaining
import ScriptLint.Proofs.Linter.Texts

/-!
# Fixing is verifying again and again

Verifying and fixing parse a text, report that it does not parse and keep a failure of a rule each on
their own. `Linter.rewrites` knows verifying and splicing only: it is a text, the text that the edits
found in it make, and so on. Fixing ends with the last of these texts, and all that it says is what
verifying says of the last one that parsed (`verifyAndFix_verifies`).

One pass records what verifying finds (`Records.pass`), and from this a run of passes that go on does
(`Leads.records`); how the run ends decides only whether one more text is looked at.
-/

namespace ScriptLint.Linter

/-- Whether a text has no syntax error. -/
def parses (l : Linter) (text : Text) : Bool := (l.parse text).errors.isEmpty

/-- What a text becomes with the edits made that verifying finds in it. -/
def spliceVerified (l : Linter) (rules : List ConfiguredRule) (text : Text) : Splice :=
  Splice.run text (l.verify rules text).diagnostics

/-- Whether another text follows: verifying meets no syntax error and no failure of a rule, and an
edit is accepted. -/
def goesOn (l : Linter) (rules : List ConfiguredRule) (text : Text) : Bool :=
  l.parses text && (l.verify rules text).error.isNone && (l.spliceVerified rules text).applied != 0

/-- A text, the text with the edits made that verifying finds in it, and so on as long as another one
follows, with `left` texts behind the first one at most. -/
def rewrites (l : Linter) (rules : List ConfiguredRule) : (left : Nat) → Text → List Text
  | 0, text => [text]
  | left + 1, text =>
    text ::
      if l.goesOn rules text then l.rewrites rules left (l.spliceVerified rules text).output else []

/-- What verifying finds in a text, with what becomes of the edits; a failure settles none of them. -/
def settleVerified (l : Linter) (rules : List ConfiguredRule) (text : Text) : List Diagnostic :=
  if (l.verify rules text).error.isSome then (l.verify rules text).diagnostics
  else (l.spliceVerified rules text).diagnostics

variable {l : Linter} {rules : List ConfiguredRule} {o last : Outcome} {text : Text}
  {passed earlier : List Text}

theorem parses_iff : l.parses text = true ↔ (l.parse text).errors = [] := List.isEmpty_iff

/-- A pass splices what verifying finds in its text. -/
theorem spliceVerified_eq (parses : (l.parse o.output).errors = []) :
    l.spliceVerified rules o.output = l.spliced rules o := by
  rw [spliceVerified, diagnostics_verify parses]
  rfl

theorem verify_of_errors {e : SyntaxError} {es : List SyntaxError}
    (errors : (l.parse text).errors = e :: es) :
    (l.verify rules text).diagnostics = [e.diagnostic text] := by
  simp only [verify, errors]
  rfl

/-- What an outcome says when one pass has run over each of some texts: it is what verifying says of
the last one. -/
structure Records (l : Linter) (rules : List ConfiguredRule) (passed : List Text) (o : Outcome) :
    Prop where
  passes : o.passes = passed.length
  skipped : o.skipped = (passed.getLast?.map fun text => (l.verify rules text).skipped).getD []
  error : o.error = passed.getLast?.bind fun text => (l.verify rules text).error
  diagnostics : o.diagnostics = (passed.getLast?.map (l.settleVerified rules)).getD []

theorem records_start (input : Text) : Records l rules [] (.start input) := ⟨rfl, rfl, rfl, rfl⟩

/-- A pass over a text that parses records what verifying finds in it. -/
theorem Records.pass {p : Pass} (records : Records l rules passed o) (does : Does l rules o p)
    (parses : (l.parse o.output).errors = []) :
    Records l rules (passed ++ [o.output]) p.outcome := by
  have found : l.found rules (.start o.output) = l.found rules o := rfl
  have counted : o.passes + 1 = (passed ++ [o.output]).length := by
    rw [records.passes, List.length_append, List.length_singleton]
  cases does with
  | unparsed errors => cases errors.symm.trans parses
  | crashed parses fails =>
    refine ⟨counted, ?_, ?_, ?_⟩
    all_goals simp [verify_of_parses parses, settleVerified, found, record, Pass.outcome, fails]
  | settled parses works nothing =>
    refine ⟨counted, ?_, ?_, ?_⟩
    all_goals simp [verify_of_parses parses, settleVerified, spliceVerified, found, record,
      recordSettled, spliced, Pass.outcome, works]
  | edited parses works some =>
    refine ⟨counted, ?_, ?_, ?_⟩
    all_goals simp [verify_of_parses parses, settleVerified, spliceVerified, found, record,
      recordSpliced, recordSettled, spliced, Pass.outcome, works]

/-- A pass that another one follows goes on to the text that verifying leads to. -/
theorem Does.goesOn {after : Outcome} (does : Does l rules o (.next after)) :
    l.goesOn rules o.output = true ∧ after.output = (l.spliceVerified rules o.output).output := by
  obtain ⟨parses, some, -, output⟩ := does.supersedes
  refine ⟨?_, output⟩
  have works : (l.verify rules o.output).error = none := by
    cases does with
    | edited parses works some =>
      rw [verify_of_parses parses]
      exact works
  simp [Linter.goesOn, parses_iff.2 parses, works, spliceVerified, some]

/-- No other text follows the one that a pass stops with. -/
theorem Does.not_goesOn {why : Stop} (does : Does l rules o (.stop why last)) :
    l.goesOn rules o.output = false := by
  have found : l.found rules (.start o.output) = l.found rules o := rfl
  cases does with
  | unparsed errors => simp [Linter.goesOn, Linter.parses, errors]
  | crashed parses fails =>
    simp [Linter.goesOn, verify_of_parses parses, found, record, fails]
  | settled parses works nothing =>
    simp [Linter.goesOn, spliceVerified_eq parses, nothing]

/-- A pass over a text that does not parse only adds the syntax error that verifying reports. -/
theorem Does.adds_problem {why : Stop} (does : Does l rules o (.stop why last))
    (unparsed : ¬ l.parses o.output = true) :
    last.passes = o.passes ∧ last.skipped = o.skipped ∧ last.error = o.error ∧
      last.diagnostics = o.diagnostics ++ (l.verify rules o.output).diagnostics := by
  cases does with
  | unparsed errors => exact ⟨rfl, rfl, rfl, by rw [verify_of_errors errors]; rfl⟩
  | crashed parses fails => exact absurd (parses_iff.2 parses) unparsed
  | settled parses works nothing => exact absurd (parses_iff.2 parses) unparsed

namespace Leads

/-- The texts of passes that go on parse. -/
theorem parses (leads : Leads l rules earlier o last) : ∀ text ∈ earlier, l.parses text = true := by
  induction leads with
  | refl o => simp
  | next does behind ih =>
    intro text mem
    rcases List.mem_cons.1 mem with rfl | later
    · exact parses_iff.2 does.supersedes.1
    · exact ih text later

theorem records (leads : Leads l rules earlier o last) (before : Records l rules passed o) :
    Records l rules (passed ++ earlier) last := by
  induction leads generalizing passed with
  | refl o => rwa [List.append_nil]
  | next does behind ih =>
    have after := ih (before.pass does does.supersedes.1)
    rwa [List.append_assoc] at after

theorem rewrites (leads : Leads l rules earlier o last) (more : Nat) :
    l.rewrites rules (earlier.length + more) o.output = earlier ++ l.rewrites rules more last.output := by
  induction leads with
  | refl o => rw [List.length_nil, Nat.zero_add, List.nil_append]
  | next does behind ih =>
    obtain ⟨goesOn, output⟩ := does.goesOn
    rw [List.length_cons, Nat.add_right_comm, Linter.rewrites, if_pos goesOn, ← output, ih,
      List.cons_append]

end Leads

theorem length_texts_le (left : Nat) : (l.texts rules left o).length ≤ left := by
  induction left generalizing o with
  | zero => exact Nat.le_refl _
  | succ left ih =>
    unfold texts
    cases l.pass rules o with
    | stop why last => exact Nat.succ_le_succ (Nat.zero_le _)
    | next after => exact Nat.succ_le_succ ih

/-- Fixing a text is verifying it and making the edits found, again and again. The output is the last
text of the sequence. One pass is counted for each text without syntax errors that was in reach of the
bound; the skipped rules, the failure and the diagnostics are those that verifying gives for the last
of these, the latter with what became of their edits. If the sequence ended within the bound with a
text that does not parse, the syntax error that verifying reports stands behind them. -/
theorem verifyAndFix_verifies (l : Linter) (rules : List ConfiguredRule) (input : Text) :
    let o := l.verifyAndFix rules input
    let texts := l.rewrites rules l.options.maxPasses input
    let passed := (texts.take l.options.maxPasses).filter l.parses
    texts.getLast? = some o.output ∧
      o.passes = passed.length ∧
      o.skipped = (passed.getLast?.map fun text => (l.verify rules text).skipped).getD [] ∧
      o.error = (passed.getLast?.bind fun text => (l.verify rules text).error) ∧
      o.diagnostics = (passed.getLast?.map (l.settleVerified rules)).getD [] ++
        if texts.length ≤ l.options.maxPasses ∧ l.parses o.output = false then
          (l.verify rules o.output).diagnostics
        else [] := by
  intro o texts passed
  have ends : l.run rules l.options.maxPasses (.start input) = (l.ending rules input, o) :=
    Prod.ext rfl (verifyAndFix_eq_run input).symm
  obtain ⟨earlier, before, leads, ending⟩ := run_cases ends
  have records : Records l rules earlier before := leads.records (records_start input)
  have fine : earlier.filter l.parses = earlier := List.filter_eq_self.2 leads.parses
  rcases ending with ⟨exhausted, final, parsed⟩ | ⟨stop, parsed⟩
  · -- No pass was left for the last text, so nothing is said of it.
    have bound : l.options.maxPasses = earlier.length := by
      rw [← parsed, length_texts_of_exhausted (exhausted ▸ ends)]
    have sequence : texts = earlier ++ [before.output] := by
      have whole := leads.rewrites 0
      rwa [Nat.add_zero, ← bound] at whole
    have within : passed = earlier := by
      simp only [passed, sequence, bound, List.take_left', fine]
    have long : ¬ (texts.length ≤ l.options.maxPasses ∧ l.parses o.output = false) := by
      simp [sequence, bound]
    rw [if_neg long, List.append_nil, within, final]
    exact ⟨by simp [sequence], records.passes, records.skipped, records.error, records.diagnostics⟩
  · have bound : earlier.length + 1 ≤ l.options.maxPasses := by
      have count : (l.texts rules l.options.maxPasses (.start input)).length ≤
          l.options.maxPasses := length_texts_le _
      rwa [parsed, List.length_append, List.length_singleton] at count
    have sequence : texts = earlier ++ [before.output] := by
      obtain ⟨more, eq⟩ := Nat.exists_eq_add_of_le bound
      have whole := leads.rewrites (more + 1)
      rwa [Linter.rewrites, if_neg (by simp [stop.not_goesOn]), ← Nat.add_assoc,
        Nat.add_right_comm, ← eq] at whole
    have short : texts.length ≤ l.options.maxPasses := by
      simpa [sequence] using bound
    have output : o.output = before.output := stop.again.1
    have within : passed = earlier ++ [before.output].filter l.parses := by
      simp only [passed, List.take_of_length_le short]
      rw [sequence, List.filter_append, fine]
    refine ⟨by simp [sequence, output], ?_⟩
    by_cases parses : l.parses before.output = true
    · have after : Records l rules passed o := by
        rw [within, List.filter_cons_of_pos parses]
        exact records.pass stop (parses_iff.1 parses)
      rw [if_neg (by simp [output, parses]), List.append_nil]
      exact ⟨after.passes, after.skipped, after.error, after.diagnostics⟩
    · have same : passed = earlier := by
        rw [within, List.filter_cons_of_neg parses, List.filter_nil, List.append_nil]
      obtain ⟨passes, skipped, error, diagnostics⟩ := stop.adds_problem parses
      rw [if_pos ⟨short, by simpa [output] using parses⟩, same, output, ← records.diagnostics]
      exact ⟨passes.trans records.passes, skipped.trans records.skipped, error.trans records.error,
        diagnostics⟩

end ScriptLint.Linter
