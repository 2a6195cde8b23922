import Mathlib.Data.List.Basic
import ScriptLint.Proofs.Dispatch.InOrder
import ScriptLint.Proofs.Rule.Report

/-!
# Runs of rules that only report

A rule that reports what it finds at the nodes of one kind fails only if a report is refused. If all
reports are accepted, the diagnostics of a run are those of the reports, in the order of the walk and
at each step in the order of the rules (`run_of_reporters`).
-/

namespace ScriptLint

/-- The edits that reports carry, at most one each. -/
def Report.carried (rs : List Report) : List Edit := rs.filterMap fun r => r.edits.head?

/-- Whether a report becomes a diagnostic with its first edit. -/
def RuleContext.Accepts (ctx : RuleContext) (r : Report) : Prop :=
  ∃ d, ctx.report r = .ok d ∧ d.edit = r.edits.head?

theorem RuleContext.accepts {ctx : RuleContext} {r : Report}
    (known : (ctx.info.message? r.messageId).isSome = true)
    (covered : r.span.start ≤ r.span.stop ∧ r.span.stop ≤ Text.size ctx.source.text)
    (few : r.edits.length ≤ 1) (offers : r.edits ≠ [] → ctx.info.offersEdits = true)
    (fits : ∀ e ∈ r.edits, e.isValid ctx.source.text = true) : ctx.Accepts r := by
  obtain ⟨template, message⟩ := Option.isSome_iff_exists.1 known
  have merged : Edit.merge ctx.source.text r.edits = .ok r.edits.head? := by
    cases edits : r.edits with
    | nil => rfl
    | cons e es =>
      obtain rfl : es = [] := by simpa [edits] using few
      rfl
  have offered : r.edits = [] ∨ ctx.info.edits ≠ none :=
    or_iff_not_imp_left.2 fun some => Option.isSome_iff_ne_none.1 (offers some)
  have settled := RuleContext.settleEdits_eq_ok_iff.2 ⟨offered, fits, merged⟩
  exact ⟨_, RuleContext.report_eq_ok_iff.2 ⟨template, _, message, covered, settled, rfl⟩, rfl⟩

namespace RuleContext

variable {ctx : RuleContext} {r : Report} {rs : List Report}

/-- The diagnostic of a report that is accepted. -/
def diagnose (ctx : RuleContext) (r : Report) : Diagnostic :=
  (Diagnostic.new ctx.info.id r.messageId ctx.severity
    (Template.render ((ctx.info.message? r.messageId).getD "") r.data)
    (location ctx.source r.span)).withEdit r.edits.head?

theorem Accepts.report_eq (accepts : ctx.Accepts r) : ctx.report r = .ok (ctx.diagnose r) := by
  obtain ⟨d, ok, edit⟩ := accepts
  obtain ⟨template, settled, message, -, -, rfl⟩ := report_eq_ok_iff.1 ok
  obtain rfl : settled = r.edits.head? := edit
  rw [ok, diagnose, message]
  rfl

theorem span_diagnose (ctx : RuleContext) (ordered : r.span.start ≤ r.span.stop) :
    (ctx.diagnose r).location.span = r.span := by
  have stop : r.span.start + (r.span.stop - r.span.start) = r.span.stop := by omega
  show Span.mk r.span.start (r.span.start + (r.span.stop - r.span.start)) = r.span
  rw [stop]

theorem edits_map_diagnose (ctx : RuleContext) (rs : List Report) :
    (rs.map ctx.diagnose).filterMap Diagnostic.edit = Report.carried rs := by
  rw [List.filterMap_map]
  rfl

end RuleContext

/-- A rule that reports what it finds at the nodes of one kind. -/
structure Reporter where
  context : RuleContext
  kind : SyntaxKind
  find : RuleContext → Site → List Report

namespace Reporter

variable {r : Reporter} {event : Phase × Site}

def worker (r : Reporter) : Worker := ⟨r.context, .reporting r.kind r.find, some ()⟩

/-- What the rule reports at a step of a walk. -/
def reports (r : Reporter) (event : Phase × Site) : List Report :=
  if event.1 = .enter ∧ event.2.kind = r.kind then r.find r.context event.2 else []

/-- A rule that sets up such a visitor for a file is at work on it. -/
theorem worker_of_ok {rule : ConfiguredRule} {settings : Json} {source : Source} {kind : SyntaxKind}
    {find : RuleContext → Site → List Report}
    (created : rule.rule.create (rule.context settings source) = .ok (.reporting kind find)) :
    rule.worker? settings source = some (worker ⟨rule.context settings source, kind, find⟩) := by
  rw [ConfiguredRule.worker?, created]
  rfl

theorem run_reports {ctx : RuleContext} {rs : List Report} (accepts : ∀ r ∈ rs, ctx.Accepts r) :
    (Action.reports () rs).run ctx = ⟨rs.map ctx.diagnose, [], .ok ()⟩ := by
  induction rs with
  | nil => rfl
  | cons r rs ih =>
    have later := ih fun r mem => accepts r (List.mem_cons_of_mem _ mem)
    simp only [Action.reports, Action.run, (accepts r List.mem_cons_self).report_eq, later,
      List.map_cons]

theorem attend_of_serve {ds : List Diagnostic}
    (served : Subscription.serve r.context event r.worker.visitor.subscriptions () =
      ⟨ds, [], .ok ()⟩) :
    r.worker.attend event = (r.worker, ds.map .diagnostic) := by
  have attends : r.worker.attend event =
      let result := Subscription.serve r.context event r.worker.visitor.subscriptions ()
      ({ r.worker with state := result.ending.toOption }, result.findings r.worker.id) := rfl
  rw [attends, served]
  simp [Action.Result.findings, Action.Result.failure?, Except.toOption, worker]

/-- What the rule finds at a step. -/
def finds (r : Reporter) (event : Phase × Site) : List Diagnostic :=
  (r.reports event).map r.context.diagnose

/-- What the rule leaves behind at a step. -/
theorem attend_worker (accepts : ∀ rep ∈ r.reports event, r.context.Accepts rep) :
    r.worker.attend event = (r.worker, (r.finds event).map .diagnostic) := by
  rw [finds]
  by_cases met : event.1 = .enter ∧ event.2.kind = r.kind
  · rw [reports, if_pos met] at accepts ⊢
    refine attend_of_serve ?_
    simp [worker, Visitor.reporting, Subscription.serve, Subscription.meets, met,
      run_reports accepts, Action.Result.andThen]
  · rw [reports, if_neg met]
    refine attend_of_serve ?_
    have apart : ¬ (r.kind = event.2.kind ∧ Phase.enter = event.1) :=
      fun both => met ⟨both.2.symm, both.1.symm⟩
    simp [worker, Visitor.reporting, Subscription.serve, Subscription.meets, apart]

end Reporter

namespace Dispatch

/-- The findings of one rule that only reports are the diagnostics of its reports. -/
theorem follow_reporter {α : Type} {r : Reporter} {walk : List (Phase × Site)}
    (accepts : ∀ event ∈ walk, ∀ rep ∈ r.reports event, r.context.Accepts rep) (label : α) :
    follow walk [(r.worker, label)] =
      (walk.flatMap r.finds).map fun d => (.diagnostic d, label) := by
  induction walk with
  | nil => rfl
  | cons event walk ih =>
    have attends := Reporter.attend_worker (accepts event List.mem_cons_self)
    have later := ih fun e mem => accepts e (List.mem_cons_of_mem _ mem)
    simp [follow, attends, later, Function.comp_def]

/-- The findings of rules that only report are the diagnostics of their reports. -/
theorem follow_reporters {rs : List Reporter} {walk : List (Phase × Site)}
    (accepts : ∀ event ∈ walk, ∀ r ∈ rs, ∀ rep ∈ r.reports event, r.context.Accepts rep) :
    (follow walk (rs.map fun r => (r.worker, ()))).map Prod.fst =
      (walk.flatMap fun event => rs.flatMap fun r => r.finds event).map .diagnostic := by
  induction walk with
  | nil => rfl
  | cons event walk ih =>
    have later := ih fun e mem => accepts e (List.mem_cons_of_mem _ mem)
    have attends : ∀ r ∈ rs, r.worker.attend event = (r.worker, (r.finds event).map .diagnostic) :=
      fun r mem => Reporter.attend_worker (accepts event List.mem_cons_self r mem)
    have workers : (rs.map fun r => (r.worker, ())).map (fun w => ((w.1.attend event).1, w.2)) =
        rs.map fun r => (r.worker, ()) := by
      rw [List.map_map]
      exact List.map_congr_left fun r mem => by simp [attends r mem]
    have here : (rs.flatMap fun r => (r.worker.attend event).2) =
        rs.flatMap fun r => (r.finds event).map .diagnostic :=
      List.flatMap_congr fun r mem => by rw [attends r mem]
    rw [follow, workers, List.map_append, later, List.flatMap_cons, List.map_append]
    simp [List.map_flatMap, List.flatMap_map, Function.comp_def, here]

/-- If all reports are accepted, no rule fails, and the diagnostics are those of the reports. -/
theorem run_of_reporters {rules : List ConfiguredRule} {settings : Json} {source : Source}
    {rs : List Reporter}
    (workers : rules.filterMap (ConfiguredRule.worker? settings source) = rs.map Reporter.worker)
    (accepts : ∀ event ∈ source.tree.walk, ∀ r ∈ rs, ∀ rep ∈ r.reports event,
      r.context.Accepts rep) :
    (run rules settings source).error = none ∧
      (run rules settings source).diagnostics =
        source.tree.walk.flatMap fun event => rs.flatMap fun r => r.finds event := by
  have labelled : (rules.map fun r => (r, ())).map Prod.fst = rules := by
    rw [List.map_map]
    exact List.map_id rules
  have same : findings settings source (rules.map fun r => (r, ())) =
      follow source.tree.walk (rs.map fun r => (r.worker, ())) := by
    rw [findings]
    congr 1
    have := congrArg (List.map fun w => (w, ())) workers
    simpa [List.filterMap_map, List.map_filterMap, Function.comp_def] using this
  rw [run_eq_ofFindings _ labelled, same, follow_reporters accepts]
  constructor
  · have none : ∀ l : List Diagnostic,
        (l.map Finding.diagnostic).findSome? Finding.failure? = none := by
      intro l
      simp [List.findSome?_eq_none_iff, Finding.failure?]
    exact none _
  · show List.filterMap Finding.diagnostic? _ = _
    rw [List.filterMap_map]
    exact List.filterMap_some

/-- If all reports of a rule are accepted, they are the diagnostics of a run of this rule alone. -/
theorem run_of_reporter {rule : ConfiguredRule} {settings : Json} {source : Source} {r : Reporter}
    (worker : rule.worker? settings source = some r.worker)
    (accepts : ∀ rep ∈ source.tree.walk.flatMap r.reports, r.context.Accepts rep) :
    (run [rule] settings source).error = none ∧
      (run [rule] settings source).diagnostics =
        (source.tree.walk.flatMap r.reports).map r.context.diagnose := by
  have workers : [rule].filterMap (ConfiguredRule.worker? settings source) =
      [r].map Reporter.worker := List.filterMap_cons_some worker
  obtain ⟨works, finds⟩ := run_of_reporters workers fun event among r own rep mem => by
    obtain rfl := List.mem_singleton.1 own
    exact accepts rep (List.mem_flatMap.2 ⟨event, among, mem⟩)
  have each (event : Phase × Site) : ([r].flatMap fun r => r.finds event) =
      (r.reports event).map r.context.diagnose := List.append_nil _
  simp only [each, ← List.map_flatMap] at finds
  exact ⟨works, finds⟩

/-- The edits that the diagnostics of reports carry. -/
theorem edits_finds (walk : List (Phase × Site)) (rs : List Reporter) :
    (walk.flatMap fun event => rs.flatMap fun r => r.finds event).filterMap Diagnostic.edit =
      walk.flatMap fun event => rs.flatMap fun r => Report.carried (r.reports event) := by
  simp only [List.filterMap_flatMap]
  simp only [Reporter.finds, RuleContext.edits_map_diagnose]

end Dispatch

end ScriptLint
