import Mathlib.Data.List.Perm.Basic
import ScriptLint.Rules.Builtin
import ScriptLint.Proofs.Rules.Sites
import ScriptLint.Proofs.Source.Nodes

/-!
# A run of the built-in rules

No report of a built-in rule is refused: it bears a message that the rule has, its span lies in the
text, and its edit, if it has one, is one of those that mend the gaps of the text. So no rule fails,
and the edits of a run are those of the gaps, in some order (`run_builtin`).
-/

namespace ScriptLint

theorem Site.stop_of_mem_ofSiblings {before after : List Leaf} {start : Nat} {ts : List Tree}
    {s : Site} (mem : s ∈ Site.ofSiblings before start after ts) : s.stop ≤ start + Tree.sizeOf ts := by
  induction ts generalizing before start with
  | nil => cases mem
  | cons t ts ih =>
    rw [Tree.sizeOf]
    cases t with
    | token kind text =>
      have := ih mem
      omega
    | node kind children =>
      rcases List.mem_cons.1 mem with rfl | later
      · simp only [Site.stop, Tree.size]
        omega
      · have := ih later
        omega

namespace Rules

open Lexeme (join leavesBefore)
open Report (carried)
open ScriptLint.Tree (lexemesOf tagsOf)

/-- Whether the built-in rules are in use, in any order, with an option of the one about template
tags. -/
def InUse (spacing : String) (rules : List ConfiguredRule) : Prop :=
  ∃ number tags pragma : ConfiguredRule, rules.Perm [number, tags, pragma] ∧
    number.rule = FloatingDecimal.rule ∧ pragma.rule = RedeclaredPragma.rule ∧
    tags.rule = TemplateTagSpacing.rule ∧ tags.options.head? = some (.str spacing)

def ofNumbers (ctx : RuleContext) : Reporter := ⟨ctx, .literal, FloatingDecimal.check⟩

def ofTags (ctx : RuleContext) : Reporter :=
  ⟨ctx, .taggedTemplateExpression, TemplateTagSpacing.check⟩

def ofPragma (ctx : RuleContext) (pragma : Text) : Reporter :=
  ⟨ctx, .variableDeclarator, RedeclaredPragma.check pragma⟩

section
variable {ctx number spacing : RuleContext} {event : Phase × Site} {r : Report}

/-- The rules about numbers and about template tags report at different nodes. -/
theorem reportsAt_eq (number spacing : RuleContext) (event : Phase × Site) :
    reportsAt number spacing event =
      (ofNumbers number).reports event ++ (ofTags spacing).reports event := by
  unfold reportsAt Reporter.reports
  by_cases literal : event.1 = .enter ∧ event.2.kind = .literal
  · simp [ofNumbers, ofTags, literal]
  · by_cases tagged : event.1 = .enter ∧ event.2.kind = .taggedTemplateExpression <;>
      simp [ofNumbers, ofTags, literal, tagged]

/-- Whether a report bears a message of its rule and at most one edit. -/
def Meant (info : RuleInfo) (r : Report) : Prop :=
  (info.message? r.messageId).isSome = true ∧ r.edits.length ≤ 1

theorem meant_ofNumbers (mem : r ∈ (ofNumbers ctx).reports event) : Meant FloatingDecimal.info r := by
  have faults (p : Place) (fault : String × Edit) (some : FloatingDecimal.fault? p = some fault) :
      fault.1 = "leading" ∨ fault.1 = "trailing" := by
    unfold FloatingDecimal.fault? at some
    split at some
    · exact .inl (by rw [← Option.some.inj some])
    split at some
    · exact .inr (by rw [← Option.some.inj some])
    · cases some
  rw [Reporter.reports] at mem
  split at mem
  · obtain ⟨fault, found, rfl⟩ := Option.map_eq_some_iff.1 (Option.mem_toList.1 mem)
    obtain ⟨p, -, found⟩ := Option.bind_eq_some_iff.1 found
    refine ⟨?_, by simp [Report.withEdit, Report.new]⟩
    obtain ⟨message, edit⟩ := fault
    rcases faults p _ found with rfl | rfl <;> rfl
  · cases mem

theorem meant_ofTags (mem : r ∈ (ofTags ctx).reports event) : Meant TemplateTagSpacing.info r := by
  have unexpected (t : TemplateTagSpacing.Tagged) : Meant TemplateTagSpacing.info t.unexpected := by
    refine ⟨rfl, ?_⟩
    cases close : t.closeGap? <;> simp [TemplateTagSpacing.Tagged.unexpected, close]
  have missing (t : TemplateTagSpacing.Tagged) : Meant TemplateTagSpacing.info t.missing :=
    ⟨rfl, Nat.le_refl _⟩
  rw [Reporter.reports] at mem
  split at mem
  · simp only [ofTags, TemplateTagSpacing.check] at mem
    split at mem
    · cases mem
    split at mem
    · exact List.mem_singleton.1 mem ▸ unexpected _
    · exact List.mem_singleton.1 mem ▸ missing _
    · cases mem
  · cases mem

/-- The rule about pragmas reports what lies in the node, and offers no edit. -/
theorem reports_ofPragma {pragma : Text} (mem : r ∈ (ofPragma ctx pragma).reports event) :
    Meant RedeclaredPragma.info r ∧ r.edits = [] ∧ r.span.start ≤ r.span.stop ∧
      r.span.stop ≤ event.2.stop := by
  rw [Reporter.reports] at mem
  split at mem
  · obtain ⟨b, binding, -, rfl⟩ : ∃ b, RedeclaredPragma.binding? event.2 = some b ∧
        ctx.source.textOf b.span = pragma ∧
        (Report.new b.span "redeclared").withValue "name" (String.ofList pragma) = r := by
      simpa [ofPragma, RedeclaredPragma.check, Option.filter_eq_some_iff, and_assoc] using mem
    have child := Site.stop_of_mem_ofSiblings (List.mem_of_find?_eq_some binding)
    exact ⟨⟨rfl, Nat.zero_le _⟩, rfl, Nat.le_add_right _ _, child⟩
  · cases mem

end

section
variable {settings : Json} {source : Source} {r : ConfiguredRule}

theorem worker_number (rule : r.rule = FloatingDecimal.rule) :
    r.worker? settings source = some (ofNumbers (r.context settings source)).worker :=
  Reporter.worker_of_ok (by rw [rule]; rfl)

theorem worker_tags (rule : r.rule = TemplateTagSpacing.rule) :
    r.worker? settings source = some (ofTags (r.context settings source)).worker :=
  Reporter.worker_of_ok (by rw [rule]; rfl)

/-- The rule about pragmas may skip a file. -/
theorem worker_pragma (settings : Json) (source : Source) (rule : r.rule = RedeclaredPragma.rule) :
    ∃ names : List Text, (r.worker? settings source).toList =
      (names.map (ofPragma (r.context settings source))).map Reporter.worker := by
  cases name : Pragma.ofSource source settings with
  | error other =>
    have created : r.rule.create (r.context settings source) = .error (Pragma.complaint other) := by
      simp [rule, RedeclaredPragma.rule, ConfiguredRule.context, name]
    exact ⟨[], by rw [ConfiguredRule.worker?, created]; rfl⟩
  | ok text =>
    have created : r.rule.create (r.context settings source) =
        .ok (.reporting .variableDeclarator (RedeclaredPragma.check text)) := by
      simp [rule, RedeclaredPragma.rule, ConfiguredRule.context, name]
    exact ⟨[text], by rw [Reporter.worker_of_ok created]; rfl⟩

/-- The rules that are at work on a file, in some order. -/
theorem workers_perm {rules : List ConfiguredRule} {base : List ConfiguredRule} {rs : List Reporter}
    (perm : rules.Perm base)
    (workers : base.filterMap (ConfiguredRule.worker? settings source) = rs.map Reporter.worker) :
    ∃ sorted : List Reporter, sorted.Perm rs ∧
      rules.filterMap (ConfiguredRule.worker? settings source) = sorted.map Reporter.worker := by
  have same : (rules.filterMap (ConfiguredRule.worker? settings source)).Perm
      (rs.map Reporter.worker) := workers ▸ perm.filterMap _
  have splits : Relation.Comp (fun ws rs => ws = rs.map Reporter.worker) List.Perm
      (rules.filterMap (ConfiguredRule.worker? settings source)) rs := by
    rw [List.eq_map_comp_perm]
    exact same
  obtain ⟨sorted, eq, order⟩ := splits
  exact ⟨sorted, order, eq⟩

end

section
variable {ctx : RuleContext} {ts : List Tree} {event : Phase × Site} {wide : Bool} {rs : List Report}

/-- What is reported about a text with an edit of its patches is accepted. -/
theorem accepts_of_patches {ps : List Patch} {rep : Report}
    (text : ctx.source.text = Patch.source ps) (offers : ctx.info.offersEdits = true)
    (covered : rep.span.start ≤ rep.span.stop ∧ rep.span.stop ≤ Text.size (Patch.source ps))
    (carries : ∀ e ∈ rep.edits.head?, e ∈ Patch.edits 0 ps) (meant : Meant ctx.info rep) :
    ctx.Accepts rep := by
  obtain ⟨known, few⟩ := meant
  refine RuleContext.accepts known (text ▸ covered) few (fun _ => offers) ?_
  intro e among
  have head : rep.edits.head? = some e := by
    obtain ⟨first, rest, eq⟩ := List.exists_cons_of_ne_nil (List.ne_nil_of_mem among)
    rw [eq] at few among ⊢
    obtain rfl : rest = [] := by simpa using few
    rw [List.mem_singleton.1 among]
    rfl
  rw [text]
  exact Patch.isValid_of_mem_edits (carries e head)

/-- What is reported about a text with the edits that mend its gaps is accepted. -/
theorem accepts_of_tallied {ls : List Lexeme} {marks : List Bool} {rep : Report}
    (text : ctx.source.text = join ls) (offers : ctx.info.offersEdits = true)
    (tallied : Tallied wide [] marks ls rs) (mem : rep ∈ rs) (meant : Meant ctx.info rep) :
    ctx.Accepts rep := by
  have source : Patch.source (patched wide [] marks ls) = join ls := source_patched wide [] marks ls
  refine accepts_of_patches (text.trans source.symm) offers (source ▸ tallied.covered rep mem)
    (fun e head => ?_) meant
  have carries : e ∈ edits wide [] marks ls :=
    tallied.edits.subset (List.mem_filterMap.2 ⟨rep, mem, head⟩)
  rw [edits_eq] at carries
  exact carries

/-- Whether the options of the rule about template tags ask for white space. -/
def asksSpace (options : List Json) : Bool := (options.head?.bind Json.asString?) == some "always"

theorem wantsSpace_context (tags : ConfiguredRule) (settings : Json) (source : Source) :
    TemplateTagSpacing.wantsSpace (tags.context settings source) = asksSpace tags.options := by
  rw [TemplateTagSpacing.wantsSpace, RuleContext.option?, ← List.head?_eq_getElem?]
  rfl

theorem asksSpace_of_head {options : List Json} {spacing : String}
    (option : options.head? = some (.str spacing)) : asksSpace options = (spacing == "always") := by
  simp [asksSpace, option, Json.asString?]

theorem asksSpace_iff {options : List Json} :
    asksSpace options = true ↔ options.head? = some (.str "always") := by
  refine ⟨fun asks => ?_, fun option => by rw [asksSpace_of_head option]; rfl⟩
  obtain ⟨option, head, text⟩ := Option.bind_eq_some_iff.1 (beq_iff_eq.1 asks)
  cases option with
  | str spacing => rw [head, Option.some.inj text]
  | _ => cases text

/-- A walk through a program reports the edits that mend the gaps of its text. -/
theorem tallied_walk (number spacing : RuleContext) (formed : ∀ t ∈ ts, t.Formed)
    (filled : ∀ l ∈ lexemesOf ts, l.text ≠ []) :
    Tallied (TemplateTagSpacing.wantsSpace spacing) [] (tagsOf ts) (lexemesOf ts)
      ((Tree.node .program ts).walk.flatMap (reportsAt number spacing)) := by
  have inside := (gathers_tallied number spacing).walk formed filled
  rwa [Tree.tagsOf_node (by decide), Tree.lexemesOf_singleton, Tree.lexemes] at inside

theorem accepts_ofPragma {pragma : Text} (info : ctx.info = RedeclaredPragma.info)
    (text : ctx.source.text = join (lexemesOf ts)) (walked : event ∈ (Tree.node .program ts).walk) :
    ∀ rep ∈ (ofPragma ctx pragma).reports event, ctx.Accepts rep := by
  intro rep mem
  obtain ⟨⟨known, few⟩, none, ordered, inside⟩ := reports_ofPragma mem
  have stop : event.2.stop ≤ Text.size ctx.source.text := by
    have stop := (Tree.liesIn_of_mem_walkFrom _ walked).bounds.2
    rwa [Nat.zero_add, Tree.lexemes, ← text] at stop
  refine RuleContext.accepts (info ▸ known) ⟨ordered, inside.trans stop⟩ few ?_ ?_
  · exact fun some => absurd none some
  · simp [none]

/-- Only the rules about numbers and about template tags offer edits. -/
theorem carried_builtin (number spacing pragma : RuleContext) (names : List Text)
    (event : Phase × Site) :
    ((ofNumbers number :: ofTags spacing :: names.map (ofPragma pragma)).flatMap fun r =>
      carried (r.reports event)) = carried (reportsAt number spacing event) := by
  have none : ∀ r ∈ names.map (ofPragma pragma), carried (r.reports event) = [] := by
    intro r mem
    obtain ⟨name, -, rfl⟩ := List.mem_map.1 mem
    refine List.filterMap_eq_nil_iff.2 fun rep among => ?_
    rw [(reports_ofPragma among).2.1]
    rfl
  rw [List.flatMap_cons, List.flatMap_cons, List.flatMap_eq_nil_iff.2 none, List.append_nil,
    reportsAt_eq, carried_append]

/-- The rules that are at work on a file: the one about pragmas may skip it. -/
theorem workers_builtin {number tags pragma : ConfiguredRule}
    (numberRule : number.rule = FloatingDecimal.rule) (tagsRule : tags.rule = TemplateTagSpacing.rule)
    (pragmaRule : pragma.rule = RedeclaredPragma.rule) (settings : Json) (source : Source) :
    ∃ names : List Text,
      [number, tags, pragma].filterMap (ConfiguredRule.worker? settings source) =
        (ofNumbers (number.context settings source) :: ofTags (tags.context settings source) ::
          names.map (ofPragma (pragma.context settings source))).map Reporter.worker := by
  obtain ⟨names, skips⟩ := worker_pragma settings source pragmaRule
  have last : [pragma].filterMap (ConfiguredRule.worker? settings source) =
      (pragma.worker? settings source).toList := by
    cases worker : pragma.worker? settings source <;> simp [worker]
  refine ⟨names, ?_⟩
  rw [List.filterMap_cons_some (worker_number numberRule),
    List.filterMap_cons_some (worker_tags tagsRule), last, skips]
  rfl

/-- No report of the built-in rules is refused. -/
theorem accepts_builtin {number tags pragma : RuleContext} {names : List Text}
    (numberInfo : number.info = FloatingDecimal.info)
    (numberText : number.source.text = join (lexemesOf ts))
    (tagsInfo : tags.info = TemplateTagSpacing.info)
    (tagsText : tags.source.text = join (lexemesOf ts))
    (pragmaInfo : pragma.info = RedeclaredPragma.info)
    (pragmaText : pragma.source.text = join (lexemesOf ts))
    (formed : ∀ t ∈ ts, t.Formed) (filled : ∀ l ∈ lexemesOf ts, l.text ≠ [])
    (walked : event ∈ (Tree.node .program ts).walk) :
    ∀ r ∈ ofNumbers number :: ofTags tags :: names.map (ofPragma pragma),
      ∀ rep ∈ r.reports event, r.context.Accepts rep := by
  intro r among rep mem
  have tallied := tallied_walk number tags formed filled
  have told : ∀ rep ∈ reportsAt number tags event,
      rep ∈ (Tree.node .program ts).walk.flatMap (reportsAt number tags) :=
    fun rep mem => List.mem_flatMap.2 ⟨event, walked, mem⟩
  rw [reportsAt_eq] at told
  rcases List.mem_cons.1 among with rfl | later
  · exact accepts_of_tallied numberText (numberInfo ▸ rfl) tallied
      (told rep (List.mem_append_left _ mem)) (numberInfo ▸ meant_ofNumbers mem)
  rcases List.mem_cons.1 later with rfl | other
  · exact accepts_of_tallied tagsText (tagsInfo ▸ rfl) tallied
      (told rep (List.mem_append_right _ mem)) (tagsInfo ▸ meant_ofTags mem)
  · obtain ⟨name, -, rfl⟩ := List.mem_map.1 other
    exact accepts_ofPragma pragmaInfo pragmaText walked rep mem

/-- No rule fails in a run over a text without errors, and the edits are those that mend its gaps, in
some order. -/
theorem run_builtin {spacing : String} {rules : List ConfiguredRule} (inUse : InUse spacing rules)
    (settings : Json) (formed : ∀ t ∈ ts, t.Formed) (filled : ∀ l ∈ lexemesOf ts, l.text ≠ []) :
    let d := Dispatch.run rules settings ⟨join (lexemesOf ts), .node .program ts⟩
    d.error = none ∧ (d.diagnostics.filterMap Diagnostic.edit).Perm
      (Patch.edits 0 (patched (spacing == "always") [] (tagsOf ts) (lexemesOf ts))) := by
  obtain ⟨number, tags, pragma, perm, numberRule, pragmaRule, tagsRule, option⟩ := inUse
  let source : Source := ⟨join (lexemesOf ts), .node .program ts⟩
  let numbers := number.context settings source
  let spaces := tags.context settings source
  obtain ⟨names, workers⟩ := workers_builtin numberRule tagsRule pragmaRule settings source
  obtain ⟨rs, order, sorted⟩ := workers_perm perm workers
  obtain ⟨works, finds⟩ := Dispatch.run_of_reporters sorted fun event walked r among =>
    accepts_builtin (congrArg Rule.info numberRule) rfl (congrArg Rule.info tagsRule) rfl
      (congrArg Rule.info pragmaRule) rfl formed filled walked r (order.subset among)
  refine ⟨works, ?_⟩
  have each (event : Phase × Site) : (rs.flatMap fun r => carried (r.reports event)).Perm
      (carried (reportsAt numbers spaces event)) :=
    carried_builtin numbers spaces _ names event ▸ order.flatMap_right _
  have all := List.Perm.flatMap_left source.tree.walk fun event _ => each event
  have whole : (source.tree.walk.flatMap fun event => carried (reportsAt numbers spaces event)) =
      carried ((Tree.node .program ts).walk.flatMap (reportsAt numbers spaces)) :=
    List.filterMap_flatMap.symm
  have tallied := tallied_walk numbers spaces formed filled
  rw [wantsSpace_context, asksSpace_of_head option] at tallied
  rw [finds, Dispatch.edits_finds]
  refine all.trans (whole ▸ tallied.edits.trans (List.Perm.of_eq ?_))
  exact edits_eq _ [] (tagsOf ts) (lexemesOf ts)

end

end Rules

end ScriptLint
