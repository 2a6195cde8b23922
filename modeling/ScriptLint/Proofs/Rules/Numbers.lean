import ScriptLint.Proofs.Linter.TwoPasses
import ScriptLint.Proofs.Rules.Mending
import ScriptLint.Proofs.Rules.Running
import ScriptLint.Proofs.Source.Unspaced

/-!
# Numbers on their own

If no template counts as tagged, mending a text does nothing but put zeros at the points of its
numbers, with a blank before a zero that would touch a word (`zeroedText`). Of a text that parses, the
zeroed text parses too, into the same tree up to trivia and zeros (`parse_zeroedText`), and it has the
tokens and comments of the text in their order (`lexemes_zeroedText`).

The rule about numbers meets them in the order of the text. What it reports is told by the lexemes
alone (`gathers_numbers`): which numbers it names (`map_numberReports`), and that its edits are those
of the zeroed text, in order (`carried_numberReports`).
-/

namespace ScriptLint

open Lexeme (join triviaBehind upToLast lastOf leavesBefore tokensFrom Standing)
open Report (carried)
open ScriptLint.Tree (lexemesOf)

namespace Lexeme

/-- Without marks, texts that have the same items have them whatever is marked. -/
theorem Along.unmarked {spell : Lexeme → Lexeme} {marks : List Bool}
    {xs ys : List (Bool × Lexeme)} (along : Along spell marks xs ys)
    (none : ∀ mark ∈ marks, mark = false) {others : List Bool} (length : others.length = marks.length) :
    Along spell others xs ys := by
  induction along generalizing others with
  | nil =>
    obtain rfl := List.length_eq_zero_iff.1 length
    exact .nil
  | @cons mark broken broken' l marks xs ys kept rest ih =>
    obtain _ | ⟨other, others⟩ := others
    · cases length
    · have same : broken' = broken := by
        simpa [none mark List.mem_cons_self] using kept
      exact .cons (.inl same) (ih (fun m mem => none m (List.mem_cons_of_mem _ mem))
        (Nat.succ.inj length))

end Lexeme

namespace Token

/-- What is wrong with the token if it is a number that starts or ends with its point. -/
def pointed? (t : Token) : Option (Span × String) :=
  if t.kind ≠ .number then none
  else if t.text.head? = some '.' then some (t.span, "leading")
  else if t.text.getLast? = some '.' then some (t.span, "trailing")
  else none

end Token

namespace Rules

variable {read ls : List Lexeme} {l : Lexeme} {after : List Leaf} {g : Gap} {wide : Bool}

/-! ### What is reported -/

/-- What is reported about lexemes that come behind others, in their order. -/
def numberReports (read : List Lexeme) : List Lexeme → List Report
  | [] => []
  | l :: ls => numberReport read l ++ numberReports (read ++ [l]) ls

theorem numberReports_append (read ls more : List Lexeme) :
    numberReports read (ls ++ more) = numberReports read ls ++ numberReports (read ++ ls) more := by
  induction ls generalizing read with
  | nil => simp [numberReports]
  | cons l ls ih => simp [numberReports, ih]

theorem numberReport_of_ne (other : l.kind ≠ .number) : numberReport read l = [] := by
  simp [numberReport, Lexeme.leads, Lexeme.trails, other]

theorem numberReports_of_ne (other : ∀ l ∈ ls, l.kind ≠ .number) : numberReports read ls = [] := by
  induction ls generalizing read with
  | nil => rfl
  | cons l ls ih =>
    rw [numberReports, numberReport_of_ne (other l List.mem_cons_self),
      ih fun t mem => other t (List.mem_cons_of_mem l mem)]
    rfl

/-- A walk through trees reports what is wrong with their numbers, in the order of the text. -/
theorem gathers_numbers (ctx : RuleContext) :
    Gathers (Reporter.reports ⟨ctx, .literal, FloatingDecimal.check⟩) fun read ts rs =>
      rs = numberReports read (lexemesOf ts) where
  leave site := rfl
  nil read := rfl
  append := by
    rintro read ts us _ _ rfl rfl
    rw [Tree.lexemesOf_append, numberReports_append]
  token := by
    intro read kind text other
    exact (numberReports_of_ne fun l mem => by
      obtain rfl := List.mem_singleton.1 mem
      exact other).symm
  literal := by
    intro read l significant filled after
    have here := check_literalAt ctx significant after
      fun t mem => filled t (List.mem_append_left _ (Lexeme.mem_of_mem_triviaBehind mem))
    exact here.trans (List.append_nil _).symm
  tagged := by
    rintro read tag gap text _ formed ends trivia filled rfl after
    rw [Tree.lexemesOf_singleton, Tree.lexemes]
    rfl
  node := by
    rintro read site _ plain rfl
    rw [Tree.lexemesOf_singleton, Tree.lexemes, Reporter.reports, if_neg fun both => plain.1 both.2]
    rfl

/-- The numbers that are reported are those of the text that start or end with their point. -/
theorem map_numberReports (read ls : List Lexeme) :
    (numberReports read ls).map (fun r => (r.span, r.messageId)) =
      (tokensFrom (Text.size (join read)) ls).filterMap Token.pointed? := by
  induction ls generalizing read with
  | nil => rfl
  | cons l ls ih =>
    have stop : Text.size (join (read ++ [l])) = Text.size (join read) + Text.size l.text := by
      simp [join]
    have first : (numberReport read l).map (fun r => (r.span, r.messageId)) =
        (Token.pointed? ⟨l.kind, l.text, Text.size (join read)⟩).toList := by
      unfold numberReport Token.pointed? Lexeme.leads Lexeme.trails
      by_cases number : l.kind = .number <;> by_cases head : l.text.head? = some '.' <;>
        by_cases last : l.text.getLast? = some '.' <;>
          simp [number, head, last, spanAt, Token.span, Token.stop, Report.withEdit, Report.new]
    rw [numberReports, List.map_append, ih, first, stop, tokensFrom, List.filterMap_cons]
    cases Token.pointed? ⟨l.kind, l.text, Text.size (join read)⟩ <;> rfl

theorem exists_of_mem_numberReports {r : Report} (mem : r ∈ numberReports read ls) :
    ∃ before l behind, ls = before ++ l :: behind ∧ r ∈ numberReport (read ++ before) l := by
  induction ls generalizing read with
  | nil => cases mem
  | cons l ls ih =>
    rcases List.mem_append.1 mem with here | later
    · exact ⟨[], l, ls, rfl, by simpa using here⟩
    · obtain ⟨before, t, behind, rfl, among⟩ := ih later
      exact ⟨l :: before, t, behind, rfl, by simpa using among⟩

/-- The edits that are reported are those that put zeros at the points of numbers. -/
theorem carried_numberReports (read ls : List Lexeme) :
    carried (numberReports read ls) = edits wide read [] ls := by
  induction ls generalizing read with
  | nil => rfl
  | cons l ls ih =>
    have later := ih (read ++ [l])
    rw [numberReports, carried_append, later, edits]
    split
    · rename_i trivia
      rw [numberReport_of_ne (Lexeme.isMark_of_trivia trivia).1]
      rfl
    · have here := @edits_untagged wide read l
      rw [gapAt] at here
      rw [List.headD_nil, here, carried_numberReport]
      rfl

/-! ### The zeroed text -/

/-- Without marks no template counts as tagged. -/
theorem tagged_of_mem_gaps (mem : g ∈ gaps read [] ls) : g.tagged = false := by
  induction ls generalizing read with
  | nil => cases mem
  | cons l ls ih =>
    rw [gaps] at mem
    split at mem
    · exact ih mem
    · rcases List.mem_cons.1 mem with rfl | later
      · rfl
      · exact ih later

theorem fits_of_mem_gaps (mem : g ∈ gaps read [] ls) : g.Fits := by
  have plain := tagged_of_mem_gaps mem
  exact ⟨fun tagged => by simp [plain] at tagged, fun tagged => by simp [plain] at tagged⟩

/-- A text with zeros at the points of its numbers. -/
def zeroedText (text : Text) : Text := join (mended false [] [] (lex text).lexemes)

theorem lexemes_mended_untagged (read : List Lexeme) (l : Lexeme) :
    (Gap.mended false (gapAt read l false)).lexemes = triviaBehind read ++
      ((if (gapAt read l false).parts then [space] else []) ++ [l.zeroed]) := by
  have spacing : (gapAt read l false).spacing false = triviaBehind read := by
    simp [Gap.spacing, Gap.lacks, Gap.exceeds, gapAt]
  rw [Gap.lexemes, Gap.mended, spacing, List.append_assoc]
  rfl

theorem map_zeroed_trivia (read : List Lexeme) :
    (triviaBehind read).map Lexeme.zeroed = triviaBehind read := by
  refine (List.map_congr_left fun l mem => ?_).trans (List.map_id _)
  exact Lexeme.zeroed_of_ne (Lexeme.isMark_of_trivia (Lexeme.isTrivia_of_mem_triviaBehind mem)).1

/-- Nothing but blanks is put between the lexemes, and numbers get their zeros. -/
theorem lexemes_mended (read ls : List Lexeme) :
    ((triviaBehind read ++ ls).map Lexeme.zeroed).Sublist (mended false read [] ls) ∧
      (mended false read [] ls).filter (fun l => ! l.isWhite) =
        ((triviaBehind read ++ ls).map Lexeme.zeroed).filter fun l => ! l.isWhite := by
  induction ls generalizing read with
  | nil =>
    have all : mended false read [] [] = (triviaBehind read ++ []).map Lexeme.zeroed := by
      simp [mended, gaps, map_zeroed_trivia]
    rw [all]
    exact ⟨.refl _, rfl⟩
  | cons l ls ih =>
    obtain ⟨among, same⟩ := ih (read ++ [l])
    by_cases trivia : l.isTrivia
    · rw [Lexeme.triviaBehind_trivia trivia, List.append_assoc] at among same
      rw [mended_trivia trivia]
      exact ⟨among, same⟩
    · have significant : l.isTrivia = false := by simpa using trivia
      have parts : mended false read [] (l :: ls) = triviaBehind read ++
          ((if (gapAt read l false).parts then [space] else []) ++
            l.zeroed :: mended false (read ++ [l]) [] ls) := by
        have first : mended false read [] (l :: ls) =
            (Gap.mended false (gapAt read l false)).lexemes ++ mended false (read ++ [l]) [] ls :=
          mended_significant significant read [] ls
        rw [first, lexemes_mended_untagged, List.append_assoc, List.append_assoc]
        rfl
      rw [Lexeme.triviaBehind_significant significant, List.nil_append] at among same
      rw [parts, List.map_append, map_zeroed_trivia, List.map_cons]
      constructor
      · refine (List.Sublist.refl _).append (List.Sublist.trans (among.cons_cons _) ?_)
        exact List.sublist_append_right _ _
      · have blank : (if (gapAt read l false).parts then [space] else []).filter
            (fun l => ! l.isWhite) = [] := by
          split <;> rfl
        rw [List.filter_append, List.filter_append, List.filter_append, blank, List.nil_append,
          List.filter_cons, List.filter_cons, same]

section
variable {text : Text} (parses : (parse text).errors = [])
include parses

theorem standing_zeroedText : Standing (mended false [] [] (lex text).lexemes) :=
  standing_mended (fun _ => fits_of_mem_gaps) (seamed_of_parses parses) (standing_of_parses parses)

/-- A zeroed text is made of the lexemes that were put there. -/
theorem lex_zeroedText : lex (zeroedText text) = ⟨mended false [] [] (lex text).lexemes, []⟩ :=
  lex_of_standing (standing_zeroedText parses)

/-- A zeroed text has the tokens of the text with zeros, and between them, besides its trivia, only
blanks. -/
theorem lexemes_zeroedText :
    ((lex text).lexemes.map Lexeme.zeroed).Sublist (lex (zeroedText text)).lexemes ∧
      (lex (zeroedText text)).lexemes.filter (fun l => ! l.isWhite) =
        ((lex text).lexemes.map Lexeme.zeroed).filter fun l => ! l.isWhite := by
  rw [lex_zeroedText parses]
  exact lexemes_mended [] (lex text).lexemes

/-- A zeroed text parses, into the same tree up to trivia and the zeros of its numbers. -/
theorem parse_zeroedText : (parse (zeroedText text)).errors = [] ∧
    Tree.bare id (parse (zeroedText text)).tree = Tree.bare Lexeme.zeroed (parse text).tree := by
  let before := gaps [] [] (lex text).lexemes
  have fits : ∀ g ∈ before, g.Fits := fun _ => fits_of_mem_gaps
  have kept := Gap.along_mended false fits
  have none : ∀ mark ∈ before.map Gap.tagged, mark = false := by
    intro mark mem
    obtain ⟨g, among, rfl⟩ := List.mem_map.1 mem
    exact tagged_of_mem_gaps among
  have length : (parse text).tree.tags.length = (before.map Gap.tagged).length := by
    have tokens := congrArg List.length (map_token_gaps [] [] (lex text).lexemes)
    rw [length_tags_parse, List.countP_eq_length_filter, List.length_map]
    rw [List.length_map] at tokens
    exact tokens.symm
  exact parse_remade (Gap.remakes_mended false) parses (standing_zeroedText parses)
    (kept.unmarked none length)

/-- In a zeroed text there is nothing to put in place of its parts. -/
theorem edits_zeroedText :
    Patch.edits 0 (patched false [] [] (lex (zeroedText text)).lexemes) = [] := by
  rw [lex_zeroedText parses]
  refine edits_patched_of_gaps fun g mem start => ?_
  rw [gaps_mended] at mem
  obtain ⟨original, among, rfl⟩ := List.mem_map.1 mem
  have token : original.token ∈ (lex text).lexemes := by
    have tokens : original.token ∈ (gaps [] [] (lex text).lexemes).map Gap.token :=
      List.mem_map_of_mem among
    rw [map_token_gaps] at tokens
    exact (List.mem_filter.1 tokens).1
  obtain ⟨behind, stands⟩ := Lexeme.stands_of_mem (standing_of_parses parses) token
  exact original.edits_patches_mended (fits_of_mem_gaps among) stands start

end

/-! ### The rule alone -/

theorem pointed?_plain (t : Token) : t.plain.pointed? = t.pointed? := by
  have kind : t.plain.kind = .number ↔ t.kind = .number := Lexeme.kind_plain_eq_iff rfl
  simp only [Token.pointed?, ne_eq, kind]
  rfl

/-- What is reported about the numbers of a text lies in it, with the edits that put in zeros. -/
theorem tallied_numberReports (ls : List Lexeme) : Tallied wide [] [] ls (numberReports [] ls) := by
  refine ⟨List.Perm.of_eq (carried_numberReports [] ls), fun r mem => ?_⟩
  obtain ⟨before, l, behind, rfl, among⟩ := exists_of_mem_numberReports mem
  rw [(span_of_mem_numberReport among).1]
  simp [spanAt, Lexeme.size_join_append, Lexeme.join_cons]

/-- The diagnostics made of what is reported about the numbers of a text name these numbers. -/
theorem map_told_numberReports (ctx : RuleContext) (ls : List Lexeme) :
    (((numberReports [] ls).map ctx.diagnose).map fun d => (d.location.span, d.messageId)) =
      (tokensFrom 0 ls).filterMap Token.pointed? := by
  rw [List.map_map]
  refine Eq.trans (List.map_congr_left fun r mem => ?_) (map_numberReports [] ls)
  have ordered := ((@tallied_numberReports false ls).covered r mem).1
  exact congrArg (·, r.messageId) (ctx.span_diagnose ordered)

theorem isSome_edit_numberReports (ctx : RuleContext) {r : Report} (mem : r ∈ numberReports read ls) :
    (ctx.diagnose r).edit.isSome := by
  obtain ⟨before, l, behind, -, here⟩ := exists_of_mem_numberReports mem
  obtain ⟨e, edits⟩ := List.length_eq_one_iff.1 (span_of_mem_numberReport here).2
  have edit : (ctx.diagnose r).edit = r.edits.head? := rfl
  rw [edit, edits]
  rfl

section
open Linter

variable {rule : ConfiguredRule} (numbers : rule.rule = FloatingDecimal.rule) (options : LintOptions)
  {o : Outcome} (parses : (ScriptLint.parse o.output).errors = [])
include numbers parses

/-- In a pass over a text that parses the rule does not fail, and its diagnostics are those of the
numbers of the text. -/
theorem found_numbers : ∃ ctx : RuleContext,
    ((new options).found [rule] o).error = none ∧
      ((new options).found [rule] o).diagnostics =
        (numberReports [] (ScriptLint.parse o.output).tree.lexemes).map ctx.diagnose := by
  let source : Source := ⟨o.output, (ScriptLint.parse o.output).tree⟩
  let ctx := rule.context options.settings source
  have walked : source.tree.walk.flatMap (ofNumbers ctx).reports =
      numberReports [] source.tree.lexemes := by
    have gathered := (gathers_numbers ctx).walk (joined_of_parses parses).formed
      (filled_of_parses parses)
    rwa [Tree.lexemesOf_singleton] at gathered
  have text : ctx.source.text = join source.tree.lexemes := (join_parse o.output).symm
  have info : ctx.info = FloatingDecimal.info := congrArg Rule.info numbers
  obtain ⟨works, finds⟩ := Dispatch.run_of_reporter (worker_number numbers) fun rep mem => by
    obtain ⟨event, -, among⟩ := List.mem_flatMap.1 mem
    rw [walked] at mem
    exact accepts_of_tallied text (info ▸ rfl) (@tallied_numberReports false _) mem
      (info ▸ meant_ofNumbers among)
  exact ⟨ctx, works, finds.trans (congrArg _ walked)⟩

/-- What is found names the numbers of the text that start or end with their point, and carries the
edits that put zeros there, one each. -/
theorem told_numbers :
    (((new options).found [rule] o).diagnostics.map fun d => (d.location.span, d.messageId)) =
        (TokenStream.ofText o.output).filterMap Token.pointed? ∧
      ((new options).found [rule] o).diagnostics.filterMap Diagnostic.edit =
        Patch.edits 0 (patched false [] [] (lex o.output).lexemes) ∧
      ∀ d ∈ ((new options).found [rule] o).diagnostics, d.edit.isSome := by
  obtain ⟨ctx, -, finds⟩ := found_numbers numbers options parses
  rw [finds]
  refine ⟨?_, ?_, ?_⟩
  · have plain : Token.pointed? ∘ Token.plain = Token.pointed? := funext pointed?_plain
    rw [map_told_numberReports, ← plain, ← List.filterMap_map, ← List.filterMap_map,
      ← TokenStream.map_plain_ofTree]
    rfl
  · rw [RuleContext.edits_map_diagnose, @carried_numberReports false, edits_eq]
    exact congrArg (Patch.edits 0) (patched_eq (map_plain_parse o.output) false [])
  · intro d mem
    obtain ⟨r, among, rfl⟩ := List.mem_map.1 mem
    exact isSome_edit_numberReports ctx among

/-- A pass over a text that parses makes all edits that are found, and with them the zeroed text. -/
theorem spliced_numbers :
    ((new options).spliced [rule] o).output = zeroedText o.output ∧
      ((new options).spliced [rule] o).diagnostics =
        ((new options).found [rule] o).diagnostics.map fun d => { d with status := .applied } := by
  obtain ⟨-, carried, edits⟩ := told_numbers numbers options parses
  have source : Patch.source (patched false [] [] (lex o.output).lexemes) = o.output :=
    (source_patched false [] [] _).trans (join_lex o.output)
  have output := Splice.output_of_eq carried
  have statuses := Splice.diagnostics_of_eq carried
  rw [source] at output statuses
  rw [output_patched] at output
  refine ⟨output, statuses.trans (List.map_congr_left fun d mem => ?_)⟩
  rw [if_pos (edits d mem)]

end

section
open Linter

variable {rule : ConfiguredRule} (numbers : rule.rule = FloatingDecimal.rule)
include numbers

/-- Nothing is found in a zeroed text. -/
theorem found_zeroedText (options : LintOptions) {text : Text}
    (parses : (ScriptLint.parse text).errors = []) :
    ((new options).found [rule] (.start (zeroedText text))).error = none ∧
      ((new options).found [rule] (.start (zeroedText text))).diagnostics = [] := by
  have clean := (parse_zeroedText parses).1
  obtain ⟨-, works, -⟩ := found_numbers numbers options (o := .start (zeroedText text)) clean
  obtain ⟨-, carried, edits⟩ := told_numbers numbers options (o := .start (zeroedText text)) clean
  have none := List.filterMap_eq_nil_iff.1 (carried.trans (edits_zeroedText parses))
  refine ⟨works, List.eq_nil_iff_forall_not_mem.2 fun d mem => ?_⟩
  have edited := edits d mem
  rw [none d mem] at edited
  cases edited

/-- The rule about numbers on its own. The first pass names the numbers of a text that start or end
with their point, in the order of the text, and makes all its edits. The output parses, into the same
tree up to trivia and the zeros of these numbers. It has all lexemes of the input, comments and white
space too, in their order and with these zeros, and besides them nothing but white space. Nothing is
found in it. -/
theorem verifyAndFix_numbers {options : LintOptions} {input : Text} (bound : 2 ≤ options.maxPasses)
    (parses : (ScriptLint.parse input).errors = []) :
    let first := (new options).verify [rule] input
    let o := (new options).verifyAndFix [rule] input
    (first.diagnostics.map fun d => (d.location.span, d.messageId)) =
        (TokenStream.ofText input).filterMap Token.pointed? ∧
      o.fixed = first.diagnostics.map (fun d => { d with status := .applied }) ∧
      o.applied = o.fixed.length ∧
      (ScriptLint.parse o.output).errors = [] ∧
      Tree.bare id (ScriptLint.parse o.output).tree =
        Tree.bare Lexeme.zeroed (ScriptLint.parse input).tree ∧
      ((lex input).lexemes.map Lexeme.zeroed).Sublist (lex o.output).lexemes ∧
      (lex o.output).lexemes.filter (fun l => ! l.isWhite) =
        ((lex input).lexemes.map Lexeme.zeroed).filter (fun l => ! l.isWhite) ∧
      o.diagnostics = [] ∧ o.error = none := by
  intro first o
  have found : first.diagnostics = ((new options).found [rule] (.start input)).diagnostics :=
    diagnostics_verify parses
  obtain ⟨ctx, works, -⟩ := found_numbers numbers options (o := .start input) parses
  obtain ⟨told, -, -⟩ := told_numbers numbers options (o := .start input) parses
  obtain ⟨output, made⟩ := spliced_numbers numbers options (o := .start input) parses
  have zeroed : ((new options).spliced [rule] (.start input)).output = zeroedText input := output
  obtain ⟨clean, same⟩ := parse_zeroedText parses
  obtain ⟨worksAgain, nothing⟩ := found_zeroedText numbers options parses
  obtain ⟨last, runs, text, error, diagnostics, fixed, count⟩ := run_of_settled (l := new options)
    bound parses works zeroed clean worksAgain fun d mem => by rw [nothing] at mem; cases mem
  have final : o = last := (verifyAndFix_eq_run _).trans (congrArg Prod.snd runs)
  have all : last.fixed = first.diagnostics.map fun d => { d with status := .applied } := by
    rw [fixed, found, made]
    refine List.filter_eq_self.2 fun d mem => ?_
    obtain ⟨x, -, rfl⟩ := List.mem_map.1 mem
    rfl
  have applied : last.applied = last.fixed.length := by
    have counted : ((new options).spliced [rule] (.start input)).diagnostics.countP
        (·.status == .applied) = ((new options).spliced [rule] (.start input)).applied :=
      Splice.countP_applied found_fresh
    rw [fixed, count, ← counted, List.countP_eq_length_filter]
  have silent : last.diagnostics = [] := by
    rw [diagnostics, diagnostics_verify clean, nothing]
  rw [final, text]
  exact ⟨found ▸ told, all, applied, clean, same, (lexemes_zeroedText parses).1,
    (lexemes_zeroedText parses).2, silent, error⟩

end

/-- A number that starts with its point behind a word, and one that ends with it. -/
def pointedNumbers : Text := ['t', 'y', 'p', 'e', 'o', 'f', '.', '5', '+', '5', '.']

theorem verifyAndFix_pointedNumbers :
    let o := (Linter.new ⟨2, .null⟩).verifyAndFix [⟨FloatingDecimal.rule, .error, []⟩] pointedNumbers
    (ScriptLint.parse pointedNumbers).errors = [] ∧ (ScriptLint.parse o.output).errors = [] ∧
      o.diagnostics = [] ∧ o.error = none := by
  intro o
  have parses : (ScriptLint.parse pointedNumbers).errors = [] := by decide +kernel
  obtain ⟨-, -, -, clean, -, -, -, silent, works⟩ := @verifyAndFix_numbers
    ⟨FloatingDecimal.rule, .error, []⟩ rfl ⟨2, .null⟩ pointedNumbers (Nat.le_refl 2) parses
  exact ⟨parses, clean, silent, works⟩

end Rules

end ScriptLint
