import ScriptLint.Proofs.Rule.Report
import ScriptLint.Proofs.Splice.AtOnce

/-!
# Reports are answered or refused

A report is refused for the first thing that is wrong with it (`RuleContext.Refuses`), and then nothing
is collected. If nothing is wrong with it (`RuleContext.Allows`), it is answered by one diagnostic
(`Diagnostic.Answers`), whose edit does at once what the edits of the report do. There is no third case
(`refuses_or_allows`), and a handler learns which one it was (`RuleContext.collect_atomic`).
-/

namespace ScriptLint

namespace RuleContext

/-- Whether the rule has a message of the id that is reported. -/
def Knows (ctx : RuleContext) (r : Report) : Prop :=
  r.messageId ∈ ctx.info.messages.map Prod.fst

/-- Whether the ends of the reported span are in order, and both in the text. -/
def Encloses (ctx : RuleContext) (r : Report) : Prop :=
  r.span.start ≤ r.span.stop ∧ r.span.stop ≤ Text.size ctx.source.text

/-- Whether the rule may offer the edits that are reported. -/
def MayOffer (ctx : RuleContext) (r : Report) : Prop :=
  r.edits = [] ∨ ctx.info.edits ≠ none

/-- Whether nothing is wrong with a report. -/
structure Allows (ctx : RuleContext) (r : Report) : Prop where
  known : ctx.Knows r
  enclosed : ctx.Encloses r
  offered : ctx.MayOffer r
  fits : ∀ e ∈ r.edits, e.isValid ctx.source.text = true
  apart : r.edits.Pairwise fun a b => a.overlaps b = false

/-- The first thing that is wrong with a report. -/
inductive Refuses (ctx : RuleContext) (r : Report) : LintError → Prop
  | unknownMessage (unknown : ¬ ctx.Knows r) :
      Refuses ctx r (.unknownMessageId ctx.info.id r.messageId)
  | outside (known : ctx.Knows r) (outside : ¬ ctx.Encloses r) :
      Refuses ctx r
        (.badRule ctx.info.id ("report range " ++ r.span.render ++ " is outside the source"))
  | unfixable (known : ctx.Knows r) (enclosed : ctx.Encloses r) (barred : ¬ ctx.MayOffer r) :
      Refuses ctx r
        (.badEdit ctx.info.id "fixes can only be reported by rules with a fixable meta")
  | misfit (known : ctx.Knows r) (enclosed : ctx.Encloses r) (offered : ctx.MayOffer r)
      {before behind : List Edit} {e : Edit} {problem : EditProblem}
      (split : r.edits = before ++ e :: behind)
      (fits : ∀ x ∈ before, x.isValid ctx.source.text = true)
      (misfits : e.Misfits ctx.source.text problem) :
      Refuses ctx r (.badEdit ctx.info.id problem.message)
  | overlapping (known : ctx.Knows r) (enclosed : ctx.Encloses r) (offered : ctx.MayOffer r)
      (fits : ∀ e ∈ r.edits, e.isValid ctx.source.text = true)
      (shared : ¬ r.edits.Pairwise fun a b => a.overlaps b = false) :
      Refuses ctx r (.badEdit ctx.info.id EditProblem.overlap.message)

end RuleContext

/-- A diagnostic answers a report of a rule: it says what the report says of the span that was
reported, and it carries an edit if any were offered, which fits and does at once what they do. -/
structure Diagnostic.Answers (d : Diagnostic) (ctx : RuleContext) (r : Report) : Prop where
  rule : d.rule = ctx.info.id
  messageId : d.messageId = r.messageId
  severity : d.severity = ctx.severity
  message : ∃ template, ctx.info.message? r.messageId = some template ∧
    d.message = Template.render template r.data
  span : d.location.span = r.span
  start : d.location.start = ctx.source.position r.span.start
  stop : d.location.endLine = some (ctx.source.position r.span.stop).line ∧
    d.location.endColumn = some (ctx.source.position r.span.stop).column
  carries : d.edit.isSome ↔ r.edits ≠ []
  status : d.status = if d.edit.isSome then .available else .none
  fits : ∀ e, d.edit = some e → e.isValid ctx.source.text = true
  applies : ∀ e, d.edit = some e →
    e.applyTo? ctx.source.text = some (Edit.atOnce r.edits 0 ctx.source.text)

namespace RuleContext

variable {ctx : RuleContext} {r : Report} {d : Diagnostic}

theorem message?_eq_none (unknown : ¬ ctx.Knows r) : ctx.info.message? r.messageId = none := by
  rw [RuleInfo.message?, List.lookup_eq_none_iff]
  intro p mem
  rw [bne_iff_ne]
  intro same
  exact unknown (List.mem_map.2 ⟨p, mem, same.symm⟩)

theorem exists_message (known : ctx.Knows r) :
    ∃ template, ctx.info.message? r.messageId = some template := by
  obtain ⟨p, mem, id⟩ := List.mem_map.1 known
  exact Option.isSome_iff_exists.1 (List.lookup_isSome_iff.2 ⟨p, mem, beq_iff_eq.2 id.symm⟩)

/-- What is settled of the edits decides about a report that is fine otherwise. -/
theorem report_eq_error_of_settleEdits {e : LintError} (known : ctx.Knows r)
    (enclosed : ctx.Encloses r) (refused : ctx.settleEdits r.edits = .error e) :
    ctx.report r = .error e := by
  obtain ⟨template, found⟩ := exists_message known
  simp only [report, found, covers_iff.2 enclosed, refused, Bool.not_true, Bool.false_eq_true, if_false]
  rfl

/-- A report with something wrong is refused for the first such thing. -/
theorem report_eq_error {e : LintError} (refuses : ctx.Refuses r e) : ctx.report r = .error e := by
  cases refuses with
  | unknownMessage unknown => simp only [report, message?_eq_none unknown]
  | outside known outside =>
    obtain ⟨template, found⟩ := exists_message known
    have refused : covers ctx.source r.span = false :=
      Bool.eq_false_iff.2 fun covers => outside (covers_iff.1 covers)
    simp only [report, found, refused, Bool.not_false, if_true]
  | unfixable known enclosed barred =>
    exact report_eq_error_of_settleEdits known enclosed (settleEdits_eq_error barred)
  | misfit known enclosed offered split fits misfits =>
    apply report_eq_error_of_settleEdits known enclosed
    have first := List.findSome?_eq_some_iff.2 ⟨_, _, _, split, Edit.problem?_eq_some_iff.2 misfits,
      fun x mem => Option.isNone_iff_eq_none.1 (fits x mem)⟩
    rw [settleEdits_eq offered, first]
  | overlapping known enclosed offered fits shared =>
    apply report_eq_error_of_settleEdits known enclosed
    rw [settleEdits_eq offered, Edit.findSome?_problem?.2 fits]
    simp only [(Edit.merge_eq fits).1 shared]
    rfl

/-- A report with nothing wrong is answered. -/
theorem exists_answer (allowed : ctx.Allows r) : ∃ d, ctx.report r = .ok d ∧ d.Answers ctx r := by
  obtain ⟨template, found⟩ := exists_message allowed.known
  obtain ⟨edit, merged, carries⟩ := (Edit.merge_eq allowed.fits).2 allowed.apart
  have settled := settleEdits_eq_ok_iff.2 ⟨allowed.offered, allowed.fits, merged⟩
  refine ⟨_, report_eq_ok_iff.2 ⟨template, edit, found, allowed.enclosed, settled, rfl⟩, ?_⟩
  refine {
    rule := rfl
    messageId := rfl
    severity := rfl
    message := ⟨template, found, rfl⟩
    span := ?_
    start := rfl
    stop := ⟨rfl, rfl⟩
    carries := carries
    status := rfl
    fits := ?_
    applies := ?_ }
  · have ordered : r.span.start + (r.span.stop - r.span.start) = r.span.stop :=
      Nat.add_sub_cancel' allowed.enclosed.1
    simp only [Diagnostic.withEdit, Diagnostic.new, location, Location.span, Span.length, ordered]
  · rintro e rfl
    exact Edit.isValid_merge allowed.fits merged
  · rintro e rfl
    exact Edit.applyTo?_merge allowed.fits allowed.apart merged

/-- The checks are made one after another: the first that fails refuses the report, and if none does,
the report is allowed. -/
theorem refuses_or_allows (ctx : RuleContext) (r : Report) :
    (∃ e, ctx.Refuses r e) ∨ ctx.Allows r := by
  by_cases known : ctx.Knows r
  swap
  · exact .inl ⟨_, .unknownMessage known⟩
  by_cases enclosed : ctx.Encloses r
  swap
  · exact .inl ⟨_, .outside known enclosed⟩
  by_cases offered : ctx.MayOffer r
  swap
  · exact .inl ⟨_, .unfixable known enclosed offered⟩
  cases found : r.edits.findSome? (Edit.problem? ctx.source.text) with
  | some problem =>
    obtain ⟨before, e, behind, split, here, fits⟩ := List.findSome?_eq_some_iff.1 found
    refine .inl ⟨_, .misfit known enclosed offered split ?_ (Edit.problem?_eq_some_iff.1 here)⟩
    intro x mem
    exact Option.isNone_iff_eq_none.2 (fits x mem)
  | none =>
    have fits := Edit.findSome?_problem?.1 found
    by_cases apart : r.edits.Pairwise fun a b => a.overlaps b = false
    · exact .inr ⟨known, enclosed, offered, fits, apart⟩
    · exact .inl ⟨_, .overlapping known enclosed offered fits apart⟩

theorem answers_of_ok (ok : ctx.report r = .ok d) : ctx.Allows r ∧ d.Answers ctx r := by
  obtain ⟨e, refuses⟩ | allowed := refuses_or_allows ctx r
  · rw [report_eq_error refuses] at ok
    cases ok
  · obtain ⟨d', ok', answers⟩ := exists_answer allowed
    obtain rfl : d' = d := Except.ok.inj (ok'.symm.trans ok)
    exact ⟨allowed, answers⟩

/-- What a report adds to the diagnostics that are collected, and what its handler is told. -/
def collect (ctx : RuleContext) (collected : List Diagnostic) (r : Report) :
    List Diagnostic × Option LintError :=
  match ctx.report r with
  | .ok d => (collected ++ [d], none)
  | .error e => (collected, some e)

/-- Reporting is atomic and exact. A report is refused, with nothing collected, for the first thing that
is wrong with it and for nothing else. If nothing is, one diagnostic is added at the end, and it answers
the report. So it is in every run of a handler, which goes on with what it is told. -/
theorem collect_atomic (ctx : RuleContext) (collected : List Diagnostic) (r : Report) :
    (∀ e, ctx.collect collected r = (collected, some e) ↔ ctx.Refuses r e) ∧
      ((∀ e, ¬ ctx.Refuses r e) →
        ∃ d, ctx.collect collected r = (collected ++ [d], none) ∧ d.Answers ctx r) ∧
      ∀ (σ : Type) (next : Option LintError → Action σ),
        collected ++ ((Action.report r next).run ctx).diagnostics =
          (ctx.collect collected r).1 ++
            ((next (ctx.collect collected r).2).run ctx).diagnostics := by
  refine ⟨?_, ?_, ?_⟩
  · intro e
    constructor
    · intro refused
      rcases refuses_or_allows ctx r with ⟨e', refuses⟩ | allowed
      · simp only [collect, report_eq_error refuses, Prod.mk.injEq, Option.some.injEq] at refused
        exact refused.2 ▸ refuses
      · obtain ⟨d, ok, -⟩ := exists_answer allowed
        simp [collect, ok] at refused
    · intro refuses
      simp only [collect, report_eq_error refuses]
  · intro fine
    rcases refuses_or_allows ctx r with ⟨e, refuses⟩ | allowed
    · exact absurd refuses (fine e)
    · obtain ⟨d, ok, answers⟩ := exists_answer allowed
      exact ⟨d, by simp only [collect, ok], answers⟩
  · intro σ next
    cases told : ctx.report r with
    | ok d => simp [collect, Action.run, told]
    | error e => simp [collect, Action.run, told]

end RuleContext

/-- Whatever a handler does, its diagnostics answer accepted reports. -/
theorem Action.run_answers {σ : Type} (ctx : RuleContext) (a : Action σ) :
    ∀ d ∈ (a.run ctx).diagnostics, ∃ r, ctx.Allows r ∧ d.Answers ctx r := by
  induction a with
  | done state => simp [Action.run]
  | fail failure => simp [Action.run]
  | note line next ih => exact ih
  | report r next ih =>
    cases told : ctx.report r with
    | ok d =>
      simp only [Action.run, told]
      intro x mem
      rcases List.mem_cons.1 mem with rfl | later
      · exact ⟨r, RuleContext.answers_of_ok told⟩
      · exact ih none x later
    | error e =>
      simp only [Action.run, told]
      exact ih (some e)

end ScriptLint
