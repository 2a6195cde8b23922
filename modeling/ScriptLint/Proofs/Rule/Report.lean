import ScriptLint.Rule.Visitor
import ScriptLint.Proofs.Edit

/-!
# What a rule reports

A diagnostic that comes of a report names its rule, carries at most one edit, which fits the text,
and says of this edit only whether there is one (`ReportedBy`). A handler has no other way to make a
diagnostic (`run_reported`). When a report becomes a diagnostic, and which, is said by
`report_eq_ok_iff` and, for its edits, by `settleEdits_eq_ok_iff`.
-/

namespace ScriptLint

/-- A diagnostic as a rule reports it about a text. -/
structure Diagnostic.ReportedBy (d : Diagnostic) (rule : String) (source : Text) : Prop where
  rule : d.rule = rule
  status : d.status = if d.edit.isSome then .available else .none
  fits : ∀ e, d.edit = some e → e.isValid source = true

namespace RuleContext

variable {ctx : RuleContext}

theorem covers_iff {r : Report} : covers ctx.source r.span = true ↔
    r.span.start ≤ r.span.stop ∧ r.span.stop ≤ Text.size ctx.source.text := by
  simp only [covers, Bool.and_eq_true, decide_eq_true_eq]

/-- Edits that the rule may offer are looked at one by one, and then merged. -/
theorem settleEdits_eq {edits : List Edit} (offered : edits = [] ∨ ctx.info.edits ≠ none) :
    ctx.settleEdits edits =
      match edits.findSome? (Edit.problem? ctx.source.text) with
      | some problem => .error (.badEdit ctx.info.id problem.message)
      | none => (Edit.merge ctx.source.text edits).mapError
          fun problem => .badEdit ctx.info.id problem.message := by
  have passes : ¬ (! edits.isEmpty && ! ctx.info.offersEdits) = true := by
    rcases offered with nothing | allowed
    · simp [nothing]
    · simp [RuleInfo.offersEdits, allowed]
  exact if_neg passes

theorem settleEdits_eq_error {edits : List Edit} (barred : ¬ (edits = [] ∨ ctx.info.edits ≠ none)) :
    ctx.settleEdits edits =
      .error (.badEdit ctx.info.id "fixes can only be reported by rules with a fixable meta") := by
  have refused : (! edits.isEmpty && ! ctx.info.offersEdits) = true := by
    simpa [RuleInfo.offersEdits] using barred
  exact if_pos refused

theorem mapError_eq_ok_iff {α β γ : Type} {f : α → β} {result : Except α γ} {value : γ} :
    result.mapError f = .ok value ↔ result = .ok value := by
  constructor
  · intro ok
    cases result with
    | error problem => cases ok
    | ok found =>
      cases ok
      rfl
  · rintro rfl
    rfl

/-- Edits come to one edit, or to none, if the rule may offer them, all of them fit, and they merge. -/
theorem settleEdits_eq_ok_iff {edits : List Edit} {edit : Option Edit} :
    ctx.settleEdits edits = .ok edit ↔ (edits = [] ∨ ctx.info.edits ≠ none) ∧
      (∀ e ∈ edits, e.isValid ctx.source.text = true) ∧
      Edit.merge ctx.source.text edits = .ok edit := by
  by_cases offered : edits = [] ∨ ctx.info.edits ≠ none
  · rw [settleEdits_eq offered, ← Edit.findSome?_problem?]
    cases edits.findSome? (Edit.problem? ctx.source.text) with
    | some problem => simp
    | none => simp [mapError_eq_ok_iff, offered]
  · simp [settleEdits_eq_error offered, offered]

/-- A report becomes a diagnostic if its message is known, its span lies in the text and its edits are
settled. -/
theorem report_eq_ok_iff {r : Report} {d : Diagnostic} :
    ctx.report r = .ok d ↔ ∃ template edit, ctx.info.message? r.messageId = some template ∧
      (r.span.start ≤ r.span.stop ∧ r.span.stop ≤ Text.size ctx.source.text) ∧
      ctx.settleEdits r.edits = .ok edit ∧
      d = (Diagnostic.new ctx.info.id r.messageId ctx.severity (Template.render template r.data)
        (location ctx.source r.span)).withEdit edit := by
  simp only [report, ← covers_iff]
  cases found : ctx.info.message? r.messageId with
  | none => simp
  | some template =>
    cases enclosed : covers ctx.source r.span with
    | false => simp
    | true => cases settled : ctx.settleEdits r.edits <;> simp [Except.map, eq_comm]

theorem settleEdits_fits {edits : List Edit} {merged : Edit}
    (ok : ctx.settleEdits edits = .ok (some merged)) : merged.isValid ctx.source.text = true := by
  obtain ⟨-, fits, merges⟩ := settleEdits_eq_ok_iff.1 ok
  exact Edit.isValid_merge fits merges

theorem report_reported {r : Report} {d : Diagnostic} (ok : ctx.report r = .ok d) :
    d.ReportedBy ctx.info.id ctx.source.text := by
  obtain ⟨template, edit, -, -, settled, rfl⟩ := report_eq_ok_iff.1 ok
  refine ⟨rfl, rfl, fun e carried => ?_⟩
  obtain rfl : edit = some e := carried
  exact settleEdits_fits settled

end RuleContext

/-- Whatever a handler does, its diagnostics come of its reports. -/
theorem Action.run_reported {σ : Type} (ctx : RuleContext) (a : Action σ) :
    ∀ d ∈ (a.run ctx).diagnostics, d.ReportedBy ctx.info.id ctx.source.text := by
  induction a with
  | done state => simp [Action.run]
  | fail failure => simp [Action.run]
  | note line next ih => exact ih
  | report r next ih =>
    simp only [Action.run]
    split
    · rename_i d ok
      intro x mem
      rcases List.mem_cons.1 mem with rfl | later
      · exact RuleContext.report_reported ok
      · exact ih none x later
    · rename_i e refused
      exact ih (some e)

end ScriptLint
