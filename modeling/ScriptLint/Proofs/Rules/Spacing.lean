import ScriptLint.Proofs.Linter.TwoPasses
import ScriptLint.Proofs.Rules.Running
import ScriptLint.Proofs.Rules.Spaced

/-!
# Space behind tags on its own

The rule about template tags meets every tagged template of a text once, those in a tag behind the one
around them, and reports it if the space behind its tag is not as it ought to be (`gathers_tags`). So
its edits are those of the spaced text, in some order, and one pass makes them all. In the spaced text
there is nothing left to be mended, and what is still reported are the gaps that a comment keeps open
(`verifyAndFix_spacing`).
-/

namespace ScriptLint.Rules

open Report (carried)
open ScriptLint.Tree (lexemesOf tagsOf)

variable {wide : Bool}

/-! ### What is reported -/

/-- Whether reports are those about the tagged templates of trees, in some order. Each tagged template
is seen with where it starts and the gap before its template. -/
def Tells (wide : Bool) (read : List Lexeme) (ts : List Tree) (rs : List Report) : Prop :=
  ∃ seen : List (Nat × Spot),
    (seen.map Prod.snd).Perm ((spots read (tagsOf ts) (lexemesOf ts)).filter fun s => s.gap.tagged) ∧
      (∀ x ∈ seen, x.1 ≤ x.2.span.stop) ∧ rs = seen.flatMap fun x => tagReport wide x.1 x.2

/-- Where no template is tagged, nothing is reported. -/
theorem tells_nil {read : List Lexeme} {ts : List Tree} (untagged : ∀ mark ∈ tagsOf ts, mark = false) :
    Tells wide read ts [] := by
  have none : (spots read (tagsOf ts) (lexemesOf ts)).filter (fun s => s.gap.tagged) = [] := by
    refine List.filter_eq_nil_iff.2 fun s mem => ?_
    have gap : s.gap ∈ gaps read (tagsOf ts) (lexemesOf ts) := by
      rw [← map_gap_spots]
      exact List.mem_map_of_mem mem
    have mark : s.gap.tagged ∈ tagsOf ts := by
      rw [← map_tagged_gaps read (Tree.length_tagsOf ts)]
      exact List.mem_map_of_mem gap
    simp [untagged _ mark]
  exact ⟨[], none ▸ .nil, fun x mem => (List.not_mem_nil mem).elim, rfl⟩

/-- A walk through trees reports all their tagged templates. -/
theorem gathers_tags (ctx : RuleContext) :
    Gathers (ofTags ctx).reports (Tells (TemplateTagSpacing.wantsSpace ctx)) where
  leave site := rfl
  nil read := tells_nil fun mark mem => (List.not_mem_nil mem).elim
  append := by
    rintro read ts us _ _ ⟨seen, perm, starts, rfl⟩ ⟨seen', perm', starts', rfl⟩
    refine ⟨seen ++ seen', ?_, fun x mem => (List.mem_append.1 mem).elim (starts x) (starts' x),
      List.flatMap_append.symm⟩
    rw [Tree.tagsOf_append, Tree.lexemesOf_append, spots_append read (Tree.length_tagsOf ts),
      List.filter_append, List.map_append]
    exact perm.append perm'
  token read kind text other := tells_nil <| by
    rw [Tree.tagsOf_singleton, Tree.tags]
    split <;> simp
  literal := by
    intro read l significant filled after
    refine tells_nil ?_
    rw [Tree.tagsOf_node (by decide), Tree.tagsOf_ofLexeme significant]
    simp
  tagged := by
    rintro read tag gap text _ formed ends trivia filled ⟨seen, perm, starts, rfl⟩ after
    have here : (ofTags ctx).reports (.enter, taggedAt read tag gap text after) = _ :=
      check_taggedAt ctx text formed ends trivia (fun l mem => filled l (by simp [mem])) after
    rw [tagsOf_taggedParts tag trivia, lexemes_taggedParts,
      spots_behind_tag read tag trivia false rfl, List.filter_append] at perm
    -- the rule meets this template before those in the tag, whose gaps come first in the text
    refine ⟨(Text.size (Lexeme.join read),
      spotAt (read ++ lexemesOf tag ++ gap) ⟨.template, text⟩ true) :: seen, ?_, ?_, ?_⟩
    · have untagged : [spotAt (read ++ lexemesOf tag ++ gap) ⟨.template, text⟩ false].filter
          (fun s => s.gap.tagged) = [] := rfl
      have tagged : [spotAt (read ++ lexemesOf tag ++ gap) ⟨.template, text⟩ true].filter
          (fun s => s.gap.tagged) = [spotAt (read ++ lexemesOf tag ++ gap) ⟨.template, text⟩ true] := rfl
      rw [untagged, List.append_nil] at perm
      rw [tagsOf_tagged tag trivia, Tree.lexemesOf_singleton, Tree.lexemes, lexemes_taggedParts,
        spots_behind_tag read tag trivia true rfl, List.filter_append, tagged]
      exact (perm.cons _).trans (List.perm_append_singleton _ _).symm
    · intro x mem
      rcases List.mem_cons.1 mem with rfl | later
      · exact start_le_spotAt read tag gap _ true
      · exact starts x later
    · rw [here, List.flatMap_cons]
  node := by
    rintro read site _ plain ⟨seen, perm, starts, rfl⟩
    have silent : (ofTags ctx).reports (.enter, site) = [] := if_neg fun both => plain.2 both.2
    refine ⟨seen, ?_, starts, by rw [silent, List.nil_append]⟩
    rwa [Tree.tagsOf_node plain.2, Tree.lexemesOf_singleton, Tree.lexemes]

section
variable {ts : List Tree} {rs : List Report}

/-- What is told about a gap with a comment that runs to the end of its line. -/
theorem Spot.told_unexpected (ctx : RuleContext) {s : Spot} (ordered : s.span.start ≤ s.span.stop)
    (ends : s.gap.endsLine = true) :
    ((ctx.diagnose s.unexpected).location.span, (ctx.diagnose s.unexpected).messageId,
      (ctx.diagnose s.unexpected).edit) = (s.span, "unexpected", none) := by
  have span : (ctx.diagnose s.unexpected).location.span = s.span :=
    ctx.span_diagnose (r := s.unexpected) ordered
  have edits : s.unexpected.edits = [] := if_pos ends
  have edit : (ctx.diagnose s.unexpected).edit = s.unexpected.edits.head? := rfl
  rw [span, edit, edits]
  rfl

/-- What is taken from the reports is taken from the gaps behind tags, if it does not matter where the
tagged templates start. -/
theorem Tells.perm_filterMap {β : Type} {f : Report → Option β} {taken : Spot → List β}
    (tells : Tells wide [] ts rs)
    (each : ∀ s ∈ spots [] (tagsOf ts) (lexemesOf ts), s.gap.tagged = true → ∀ start,
      (tagReport wide start s).filterMap f = taken s) :
    (rs.filterMap f).Perm
      (((spots [] (tagsOf ts) (lexemesOf ts)).filter fun s => s.gap.tagged).flatMap taken) := by
  obtain ⟨seen, perm, -, rfl⟩ := tells
  have own : ∀ x ∈ seen, (tagReport wide x.1 x.2).filterMap f = taken x.2 := by
    intro x mem
    obtain ⟨spot, tagged⟩ := List.mem_filter.1 (perm.subset (List.mem_map_of_mem mem))
    exact each x.2 spot tagged x.1
  rw [List.filterMap_flatMap, List.flatMap_congr own, ← List.flatMap_map]
  exact perm.flatMap_right taken

/-- The edits of the reports are those of the text with its tags spaced, in some order. -/
theorem Tells.edits (tells : Tells wide [] ts rs) : (carried rs).Perm
    (Patch.edits 0 (pieces (Gap.spacedPatches wide) [] (tagsOf ts) (lexemesOf ts))) := by
  let edits (s : Spot) : List Edit := Patch.edits s.span.start (s.gap.spacedPatches wide)
  have pieces : Patch.edits 0 (pieces (Gap.spacedPatches wide) [] (tagsOf ts) (lexemesOf ts)) =
      (spots [] (tagsOf ts) (lexemesOf ts)).flatMap edits :=
    edits_pieces (Gap.source_spacedPatches wide) [] _ _
  -- nothing is put behind what is no tag
  have tagged (ss : List Spot) :
      ((ss.filter fun s => s.gap.tagged).flatMap edits) = ss.flatMap edits := by
    induction ss with
    | nil => rfl
    | cons s ss ih =>
      cases tagged : s.gap.tagged with
      | true => simp [tagged, ih]
      | false =>
        have none : edits s = [] := by
          rw [show edits s = _ from Gap.edits_spacedPatches wide s.gap s.span.start,
            Gap.spacingPatches_untagged tagged]
          rfl
        simp [tagged, ih, none]
  rw [pieces, ← tagged]
  refine tells.perm_filterMap fun s mem tagged start => ?_
  exact (carried_tagReport wide start tagged (span_of_mem_spots mem).1).trans
    (Gap.edits_spacedPatches wide s.gap s.span.start).symm

/-- What is reported lies in the text. -/
theorem Tells.covered (tells : Tells wide [] ts rs) : ∀ r ∈ rs,
    r.span.start ≤ r.span.stop ∧ r.span.stop ≤ Text.size (Lexeme.join (lexemesOf ts)) := by
  obtain ⟨seen, perm, starts, rfl⟩ := tells
  intro r mem
  obtain ⟨x, among, own⟩ := List.mem_flatMap.1 mem
  obtain ⟨spot, -⟩ := List.mem_filter.1 (perm.subset (List.mem_map_of_mem among))
  obtain ⟨fills, inside⟩ := span_of_mem_spots spot
  obtain ⟨ordered, stop⟩ := covered_tagReport (starts x among) (by omega) r own
  exact ⟨ordered, stop ▸ inside⟩

/-- If there is space behind all tags and there ought to be, nothing is reported. -/
theorem Tells.eq_nil (tells : Tells true [] ts rs)
    (settled : ∀ s ∈ spots [] (tagsOf ts) (lexemesOf ts), s.gap.tagged = true →
      s.gap.isSpaced = true) : rs = [] := by
  obtain ⟨seen, perm, -, rfl⟩ := tells
  refine List.flatMap_eq_nil_iff.2 fun x mem => ?_
  obtain ⟨spot, tagged⟩ := List.mem_filter.1 (perm.subset (List.mem_map_of_mem mem))
  rw [tagReport_wide, if_pos (settled x.2 spot tagged)]

/-- If there is space behind tags only where a comment runs to the end of its line, and there ought to
be none, the diagnostics are about the gaps with such a comment, and none has an edit. -/
theorem Tells.perm_told (tells : Tells false [] ts rs) (ctx : RuleContext)
    (settled : ∀ s ∈ spots [] (tagsOf ts) (lexemesOf ts), s.gap.tagged = true →
      s.gap.isSpaced = s.gap.endsLine) :
    ((rs.map ctx.diagnose).map fun d => (d.location.span, d.messageId, d.edit)).Perm
      (((spots [] (tagsOf ts) (lexemesOf ts)).filter fun s => s.gap.tagged && s.gap.endsLine).map
        fun s => (s.span, "unexpected", none)) := by
  let told (s : Spot) : List (Span × String × Option Edit) :=
    if s.gap.endsLine then [(s.span, "unexpected", none)] else []
  have tagged (ss : List Spot) : ((ss.filter fun s => s.gap.tagged).flatMap told) =
      (ss.filter fun s => s.gap.tagged && s.gap.endsLine).map fun s => (s.span, "unexpected", none) := by
    induction ss with
    | nil => rfl
    | cons s ss ih =>
      cases tagged : s.gap.tagged <;> cases ends : s.gap.endsLine <;> simp [tagged, ends, told, ih]
  rw [List.map_map, ← List.filterMap_eq_map, ← tagged]
  refine tells.perm_filterMap fun s mem tagged start => ?_
  have fills := (span_of_mem_spots mem).1
  rw [tagReport_narrow, settled s mem tagged]
  cases ends : s.gap.endsLine with
  | true => simp [told, ends, s.told_unexpected ctx (by omega) ends]
  | false => simp [told, ends]

end

/-! ### The rule alone -/

section
open Linter

variable {rule : ConfiguredRule} (tags : rule.rule = TemplateTagSpacing.rule) (options : LintOptions)
  {o : Outcome} (parses : (ScriptLint.parse o.output).errors = [])
include tags parses

/-- In a pass over a text that parses the rule does not fail, and its diagnostics are those of the
tagged templates of the text. -/
theorem found_tags : ∃ (ctx : RuleContext) (rs : List Report),
    ((new options).found [rule] o).error = none ∧
      ((new options).found [rule] o).diagnostics = rs.map ctx.diagnose ∧
      Tells (asksSpace rule.options) [] (programBody (lex o.output).lexemes).out rs := by
  let source : Source := ⟨o.output, (ScriptLint.parse o.output).tree⟩
  let ctx := rule.context options.settings source
  let rs := source.tree.walk.flatMap (ofTags ctx).reports
  have tells : Tells (asksSpace rule.options) [] (programBody (lex o.output).lexemes).out rs := by
    have gathered := (gathers_tags ctx).walk (joined_of_parses parses).formed
      (filled_of_parses parses)
    rw [wantsSpace_context] at gathered
    obtain ⟨seen, perm, starts, eq⟩ := gathered
    rw [Tree.tagsOf_node (by decide), Tree.lexemesOf_singleton, Tree.lexemes] at perm
    exact ⟨seen, perm, starts, eq⟩
  let patches := pieces (Gap.spacedPatches (asksSpace rule.options)) []
    (tagsOf (programBody (lex o.output).lexemes).out)
    (lexemesOf (programBody (lex o.output).lexemes).out)
  have whole : Patch.source patches = Lexeme.join (lexemesOf (programBody (lex o.output).lexemes).out) :=
    source_pieces (Gap.source_spacedPatches _) [] _ _
  have text : ctx.source.text = Patch.source patches := (whole.trans (join_parse o.output)).symm
  have info : ctx.info = TemplateTagSpacing.info := congrArg Rule.info tags
  obtain ⟨works, finds⟩ := Dispatch.run_of_reporter (worker_tags tags) fun rep mem => by
    obtain ⟨event, -, among⟩ := List.mem_flatMap.1 mem
    exact accepts_of_patches text (info ▸ rfl) (whole ▸ tells.covered rep mem)
      (fun e head => tells.edits.subset (List.mem_filterMap.2 ⟨rep, mem, head⟩))
      (info ▸ meant_ofTags among)
  exact ⟨ctx, rs, works, finds, tells⟩

/-- The edits that are found are those of the text with its tags spaced, in some order. -/
theorem edits_tags : (((new options).found [rule] o).diagnostics.filterMap Diagnostic.edit).Perm
    (Patch.edits 0 (spacingPatchesOf (asksSpace rule.options) o.output)) := by
  obtain ⟨ctx, rs, -, finds, tells⟩ := found_tags tags options parses
  have edits := tells.edits
  rw [pieces_eq (Gap.spacedPatches_plain _) (map_plain_parse o.output), ← tags_parse] at edits
  rw [finds, RuleContext.edits_map_diagnose]
  exact edits

end

section
open Linter

variable {rule : ConfiguredRule} (tags : rule.rule = TemplateTagSpacing.rule) (options : LintOptions)
include tags

theorem mends_spacing :
    (new options).Mends [rule] (spacingPatchesOf (asksSpace rule.options)) where
  source := source_spacingPatchesOf _
  works parses := by
    obtain ⟨_, _, works, -⟩ := found_tags tags options (o := .start _) parses
    exact works
  edits parses := edits_tags tags options (o := .start _) parses

variable {text : Text} (parses : (ScriptLint.parse text).errors = [])
include parses

/-- Where there ought to be space, nothing is found in a spaced text. -/
theorem found_wide (asks : asksSpace rule.options = true) :
    ((new options).found [rule] (.start (spacedText true text))).diagnostics = [] := by
  have clean := (parse_spacedText parses true).1
  obtain ⟨ctx, rs, -, finds, tells⟩ :=
    found_tags tags options (o := .start (spacedText true text)) clean
  rw [asks] at tells
  have none := tells.eq_nil fun s mem tagged => by
    obtain ⟨g, among, same⟩ := exists_gap_of_mem_spots mem
    have lacks := (settled_spacedText parses true g among).1
    have mark : g.tagged = true := (congrArg Gap.tagged same).trans tagged
    rw [← s.gap.isSpaced_plain, ← same, Gap.isSpaced_plain]
    simpa [Gap.lacks, mark] using lacks
  rw [finds, none]
  rfl

/-- Where there ought to be none, what is found in a spaced text are the gaps behind tags with a
comment that runs to the end of its line, and no edit. -/
theorem found_narrow (asks : asksSpace rule.options = false) :
    (((new options).found [rule] (.start (spacedText false text))).diagnostics.map fun d =>
      (d.location.span, d.messageId, d.edit)).Perm
      (((spotsOf (spacedText false text)).filter fun s => s.gap.tagged && s.gap.endsLine).map
        fun s => (s.span, "unexpected", none)) := by
  have clean := (parse_spacedText parses false).1
  obtain ⟨ctx, rs, -, finds, tells⟩ :=
    found_tags tags options (o := .start (spacedText false text)) clean
  rw [asks] at tells
  have told := tells.perm_told ctx fun s mem tagged => by
    obtain ⟨g, among, same⟩ := exists_gap_of_mem_spots mem
    have exceeds := (settled_spacedText parses false g among).2
    have mark : g.tagged = true := (congrArg Gap.tagged same).trans tagged
    have closes := isSpaced_of_endsLine clean among mark
    rw [← s.gap.isSpaced_plain, ← s.gap.endsLine_plain, ← same, Gap.isSpaced_plain,
      Gap.endsLine_plain]
    cases spaced : g.isSpaced <;> cases ends : g.endsLine <;>
      simp_all [Gap.exceeds]
  rw [finds]
  refine told.trans (List.Perm.of_eq ?_)
  exact map_filter_spotsOf (fun s => by simp only [Spot.plain, Gap.endsLine_plain]; rfl)
    (fun _ => rfl) _

end

section
open Linter

/-- The rule about template tags on its own. The run settles, and no rule fails. The output parses,
into the same tree up to white space, and has the tokens and comments of the input in their order.
With the option `always` there is white space behind all its tags, a blank where there was none, and
nothing is reported. Otherwise nothing but comments is left behind a tag, and the gaps with a comment
that runs to the end of its line are as they were: these are reported, without an edit, and nothing
else is. -/
theorem verifyAndFix_spacing {rule : ConfiguredRule} (tags : rule.rule = TemplateTagSpacing.rule)
    {options : LintOptions} {input : Text} (bound : 2 ≤ options.maxPasses)
    (parses : (ScriptLint.parse input).errors = []) :
    let o := (new options).verifyAndFix [rule] input
    ((new options).run [rule] options.maxPasses (.start input)).1 = .settled ∧ o.error = none ∧
      (ScriptLint.parse o.output).errors = [] ∧
      Tree.unspaced (ScriptLint.parse o.output).tree = Tree.unspaced (ScriptLint.parse input).tree ∧
      (lex o.output).lexemes.filter (fun l => ! l.isWhite) =
        (lex input).lexemes.filter (fun l => ! l.isWhite) ∧
      (rule.options.head? = some (.str "always") →
        gapsOf o.output = (gapsOf input).map (fun g =>
          if g.tagged && ! g.isSpaced then { g with trivia := space :: g.trivia } else g) ∧
        (∀ g ∈ gapsOf o.output, g.tagged = true → g.isSpaced = true) ∧ o.diagnostics = []) ∧
      (rule.options.head? ≠ some (.str "always") →
        gapsOf o.output = (gapsOf input).map (fun g =>
          if g.tagged && ! g.endsLine then { g with trivia := g.comments } else g) ∧
        (o.diagnostics.map fun d => (d.location.span, d.messageId, d.edit)).Perm
          (((spotsOf o.output).filter fun s => s.gap.tagged && s.gap.endsLine).map fun s =>
            (s.span, "unexpected", none))) := by
  intro o
  obtain ⟨last, runs, text, error, diagnostics, -⟩ := (mends_spacing tags options).run bound parses
    (spans_spacingPatchesOf parses _) (output_spacingPatchesOf _ _) (parse_spacedText parses _).1
    (edits_spacedText parses _)
  have final : o = last := (verifyAndFix_eq_run _).trans (congrArg Prod.snd runs)
  have gaps := gapsOf_spacedText parses (asksSpace rule.options)
  rw [final, text]
  refine ⟨congrArg Prod.fst runs, error, (parse_spacedText parses _).1, unspaced_spacedText parses _,
    lexemes_spacedText parses _, fun always => ?_, fun other => ?_⟩
  · have asks := asksSpace_iff.2 always
    rw [asks] at gaps diagnostics ⊢
    refine ⟨gaps.trans (List.map_congr_left fun g _ => g.spaced_wide), fun g mem tagged => ?_,
      diagnostics.trans (found_wide tags options parses asks)⟩
    have lacks := (settled_spacedText parses true g mem).1
    simpa [Gap.lacks, tagged] using lacks
  · have asks : asksSpace rule.options = false := Bool.eq_false_iff.2 fun asks => other (asksSpace_iff.1 asks)
    rw [asks] at gaps diagnostics ⊢
    refine ⟨gaps.trans (List.map_congr_left fun g mem => Gap.spaced_narrow (isTrivia_of_mem_gaps mem)),
      ?_⟩
    rw [diagnostics]
    exact found_narrow tags options parses asks

end

/-- A tag right before its template, and one with a comment to the end of the line behind it. -/
def openTags : Text :=
  ['a', Lexeme.backtick, Lexeme.backtick, ';', 'b', '/', '/', '\n', Lexeme.backtick, Lexeme.backtick]

theorem verifyAndFix_openTags :
    let o := (Linter.new ⟨2, .null⟩).verifyAndFix
      [⟨TemplateTagSpacing.rule, .error, [.str "always"]⟩] openTags
    (parse openTags).errors = [] ∧ (parse o.output).errors = [] ∧ o.diagnostics = [] ∧
      o.error = none := by
  intro o
  have parses : (parse openTags).errors = [] := by decide +kernel
  obtain ⟨-, works, clean, -, -, always, -⟩ := @verifyAndFix_spacing
    ⟨TemplateTagSpacing.rule, .error, [.str "always"]⟩ rfl ⟨2, .null⟩ openTags (Nat.le_refl 2) parses
  exact ⟨parses, clean, (always rfl).2.2, works⟩

end ScriptLint.Rules
