import ScriptLint.Proofs.Linter.BrokenOutput
import ScriptLint.Proofs.Linter.TwoPasses
import ScriptLint.Proofs.Rules.Mending
import ScriptLint.Proofs.Rules.Running

/-!
# The built-in rules together

The first pass mends all gaps of a text that parses, and the next one finds nothing to mend
(`run_mendedText`), so the output parses, with the tokens of the input and zeros at the points of
numbers (`verifyAndFix_builtin`).

There is one exception. Where a template is tagged with a number that ends in its point, right before
the template, the blank that is missing behind the tag and the zero that is missing behind the point
go to one place. They are put there in the order in which they are reported, the blank first, and the
output is broken (`verifyAndFix_pointed_tag`).
-/

namespace ScriptLint.Rules

open Lexeme (join)
open ScriptLint.Tree (lexemesOf)

/-- Whether a template is tagged by a number that ends in its point, with no space between. -/
def hasPointedTag (text : Text) : Bool :=
  (gapsOf text).any fun g => g.lacks true && g.before.any Lexeme.trails

/-- The text with what is to be put in place of its parts. -/
def patchesOf (wide : Bool) (text : Text) : List Patch :=
  patched wide [] (parse text).tree.tags (lex text).lexemes

theorem source_patchesOf (wide : Bool) (text : Text) :
    Patch.source (patchesOf wide text) = text := by
  rw [patchesOf, source_patched]
  exact join_lex text

theorem output_patchesOf (wide : Bool) (text : Text) :
    Patch.output (patchesOf wide text) = mendedText wide text :=
  output_patched wide [] _ _

/-- No two edits of a text have one span, unless a tag and its number need mending at one place. -/
theorem spans_patchesOf (wide : Bool) {text : Text} (parses : (parse text).errors = [])
    (free : wide = true → hasPointedTag text = false) :
    ((Patch.edits 0 (patchesOf wide text)).map Edit.span).Nodup := by
  have clear : ∀ g ∈ gapsOf text, g.Clear wide := by
    intro g mem
    refine (seamed_gapsOf parses g mem).clear fun lacks => ?_
    have wide : wide = true := by
      simp only [Gap.lacks, Bool.and_eq_true] at lacks
      exact lacks.1.2
    subst wide
    have apart := List.any_eq_false.1 (free rfl) g mem
    simpa [lacks] using apart
  have filled : ∀ l ∈ Lexeme.triviaBehind [] ++ (lex text).lexemes, l.text ≠ [] := by
    intro l mem
    obtain ⟨behind, stands⟩ := Lexeme.stands_of_mem (standing_of_parses parses) mem
    exact stands.ne_nil
  exact (Patch.spans_nodup (apart_patched (fits_gapsOf parses) clear filled) 0).1

/-- There is nothing to put in place of the parts of a mended text. -/
theorem edits_mendedText {text : Text} (parses : (parse text).errors = []) (wide : Bool) :
    Patch.edits 0 (patchesOf wide (mendedText wide text)) = [] :=
  edits_patched_of_gaps (edits_gapsOf_mendedText parses wide)

section
open Linter

variable {spacing : String} {rules : List ConfiguredRule} {o : Outcome}

/-- In a pass over a text that parses no rule fails, and the edits that are found are those of the
text, in some order. -/
theorem found_builtin (options : LintOptions) (inUse : InUse spacing rules)
    (parses : (ScriptLint.parse o.output).errors = []) :
    ((new options).found rules o).error = none ∧
      (((new options).found rules o).diagnostics.filterMap Diagnostic.edit).Perm
        (Patch.edits 0 (patchesOf (spacing == "always") o.output)) := by
  have ran := run_builtin inUse options.settings (joined_of_parses parses).formed
    (filled_of_parses parses)
  rw [join_parse, patched_eq (map_plain_parse o.output), ← tags_parse] at ran
  exact ran

theorem mends_builtin (options : LintOptions) (inUse : InUse spacing rules) :
    (new options).Mends rules (patchesOf (spacing == "always")) where
  source := source_patchesOf _
  works parses := (found_builtin options (o := .start _) inUse parses).1
  edits parses := (found_builtin options (o := .start _) inUse parses).2

/-- In a pass over a mended text no rule fails, and nothing is found to mend. -/
theorem settles_mendedText (options : LintOptions) {text : Text} (inUse : InUse spacing rules)
    (parses : (ScriptLint.parse text).errors = [])
    (output : o.output = mendedText (spacing == "always") text) :
    ((new options).found rules o).error = none ∧
      ∀ d ∈ ((new options).found rules o).diagnostics, d.edit = none := by
  have parsesToo : (ScriptLint.parse o.output).errors = [] := by
    rw [output]
    exact (parse_mendedText parses _).1
  obtain ⟨works, edits⟩ := found_builtin options inUse parsesToo
  rw [output, edits_mendedText parses, List.perm_nil, List.filterMap_eq_nil_iff] at edits
  exact ⟨works, edits⟩

/-- The built-in rules mend a text in one pass, and one more finds nothing to mend. -/
theorem run_mendedText {options : LintOptions} {input : Text} (inUse : InUse spacing rules)
    (bound : 2 ≤ options.maxPasses) (parses : (ScriptLint.parse input).errors = [])
    (free : spacing = "always" → hasPointedTag input = false) :
    ∃ last, (new options).run rules options.maxPasses (.start input) = (.settled, last) ∧
      last.output = mendedText (spacing == "always") input ∧ last.error = none := by
  have spans := spans_patchesOf (spacing == "always") parses fun wide => free (by simpa using wide)
  obtain ⟨last, runs, same, error, -⟩ := (mends_builtin options inUse).run bound parses spans
    (output_patchesOf _ _) (parse_mendedText parses _).1 (edits_mendedText parses _)
  exact ⟨last, runs, same, error⟩

/-- The built-in rules together do not break a text. Where it parses and no template is tagged, right
before it, by a number that ends in its point, the output parses into the same tree up to trivia and
the zeros of numbers, so its tokens are those of the input, in order and with these zeros. No rule
fails, and verifying the output finds nothing that could be mended. -/
theorem verifyAndFix_builtin {options : LintOptions} {input : Text} (inUse : InUse spacing rules)
    (bound : 2 ≤ options.maxPasses) (parses : (ScriptLint.parse input).errors = [])
    (free : spacing = "always" → hasPointedTag input = false) :
    let o := (new options).verifyAndFix rules input
    let before := (ScriptLint.parse input).tree
    let after := (ScriptLint.parse o.output).tree
    (ScriptLint.parse o.output).errors = [] ∧ Tree.bare id after = Tree.bare Lexeme.zeroed before ∧
      (after.lexemes.filter fun l => ! l.isTrivia) =
        (before.lexemes.filter fun l => ! l.isTrivia).map Lexeme.zeroed ∧
      o.error = none ∧ ∀ d ∈ ((new options).verify rules o.output).diagnostics, d.edit = none := by
  intro o before after
  obtain ⟨last, runs, output, works⟩ := run_mendedText inUse bound parses free
  have final : o = last := (verifyAndFix_eq_run _).trans (congrArg Prod.snd runs)
  obtain ⟨clean, bare⟩ := parse_mendedText parses (spacing == "always")
  have same : Tree.bare id after = Tree.bare Lexeme.zeroed before := by
    simp only [after, final, output, bare, before]
  have tokens := congrArg lexemesOf same
  rw [Tree.lexemesOf_bare, Tree.lexemesOf_bare, List.map_id] at tokens
  have cleanOutput : (ScriptLint.parse o.output).errors = [] := by
    rw [final, output]
    exact clean
  have again : (Outcome.start o.output).output = mendedText (spacing == "always") input := by
    rw [final]
    exact output
  refine ⟨cleanOutput, same, tokens, final ▸ works, ?_⟩
  rw [diagnostics_verify cleanOutput]
  exact (settles_mendedText options inUse parses again).2

/-- The built-in rules in use, with the option of the one about template tags. -/
def builtinWith (spacing : String) : List ConfiguredRule :=
  [⟨FloatingDecimal.rule, .error, []⟩, ⟨TemplateTagSpacing.rule, .error, [.str spacing]⟩,
    ⟨RedeclaredPragma.rule, .error, []⟩]

theorem inUse_builtinWith (spacing : String) : InUse spacing (builtinWith spacing) :=
  ⟨_, _, _, .refl _, rfl, rfl, rfl, rfl⟩

/-- A tag without space behind it, and numbers that start and end with their points. -/
def pointed : Text := ['a', Lexeme.backtick, Lexeme.backtick, ';', '.', '5', '+', '5', '.']

theorem verifyAndFix_builtin_pointed :
    (ScriptLint.parse pointed).errors = [] ∧ hasPointedTag pointed = false ∧
      (ScriptLint.parse
        ((new ⟨2, .null⟩).verifyAndFix (builtinWith "always") pointed).output).errors = [] := by
  have parses : (ScriptLint.parse pointed).errors = [] := by decide +kernel
  have free : hasPointedTag pointed = false := by decide +kernel
  exact ⟨parses, free, (verifyAndFix_builtin (inUse_builtinWith "always") (Nat.le_refl 2) parses
    fun _ => free).1⟩

def pointedTag : Text := ['1', '.', Lexeme.backtick, Lexeme.backtick]

def brokenTag : Text := ['1', '.', ' ', '0', Lexeme.backtick, Lexeme.backtick]

/-- The blank and the zero, in the order in which they are reported. -/
def pointedPatches : List Patch :=
  [.keep ['1', '.'], .change [] [' '], .change [] ['0'], .keep [Lexeme.backtick, Lexeme.backtick]]

theorem errors_pointedTag : (ScriptLint.parse pointedTag).errors = [] := by decide +kernel

theorem errors_brokenTag : (ScriptLint.parse brokenTag).errors ≠ [] := by
  have found : (programBody (lex brokenTag).lexemes).errors ≠ [] := by decide +kernel
  obtain ⟨e, mem⟩ := List.exists_mem_of_ne_nil _ found
  exact List.ne_nil_of_mem (List.mem_mergeSort.2 (List.mem_append_right _ mem))

theorem first_pointedTag : ∃ after,
    Does (new ⟨2, .null⟩) (builtinWith "always") (.start pointedTag) (.next after) ∧
      after.output = brokenTag ∧ after.error = none := by
  have found : (new ⟨2, .null⟩).found (builtinWith "always") (.start pointedTag) =
      Dispatch.runSlots (builtinWith "always") .null
        ⟨pointedTag, (ScriptLint.parse pointedTag).tree⟩ := found_eq_runSlots
  have works : ((new ⟨2, .null⟩).found (builtinWith "always") (.start pointedTag)).error = none := by
    rw [found]
    decide +kernel
  have edits : ((new ⟨2, .null⟩).found (builtinWith "always")
      (.start pointedTag)).diagnostics.filterMap Diagnostic.edit = Patch.edits 0 pointedPatches := by
    rw [found]
    decide +kernel
  have output : ((new ⟨2, .null⟩).spliced (builtinWith "always") (.start pointedTag)).output =
      brokenTag := Splice.output_of_eq edits
  have changes :
      ((new ⟨2, .null⟩).spliced (builtinWith "always") (.start pointedTag)).applied ≠ 0 := by
    intro nothing
    rw [List.filterMap_eq_nil_iff.2 (edit_of_applied_eq_zero nothing).2] at edits
    cases edits
  exact ⟨_, .edited errors_pointedTag works changes, output, works⟩

/-- The output does not parse: the number that it starts with has a number behind it. -/
theorem verifyAndFix_pointed_tag :
    let o := (new ⟨2, .null⟩).verifyAndFix (builtinWith "always") pointedTag
    (ScriptLint.parse pointedTag).errors = [] ∧ o.output = brokenTag ∧
      (ScriptLint.parse o.output).errors ≠ [] := by
  intro o
  obtain ⟨after, first, output, works⟩ := first_pointedTag
  obtain ⟨e, es, errors⟩ := List.exists_cons_of_ne_nil errors_brokenTag
  have second :
      Does (new ⟨2, .null⟩) (builtinWith "always") after (.stop .unparsed (stopAt after e)) :=
    .unparsed (output ▸ errors)
  have runs : (new ⟨2, .null⟩).run (builtinWith "always") 2 (.start pointedTag) =
      (.unparsed, stopAt after e) := by
    rw [run_of_next first, run_of_stop second]
  have final : o = stopAt after e := (verifyAndFix_eq_run _).trans (congrArg Prod.snd runs)
  have same : o.output = brokenTag := by rw [final]; exact output
  exact ⟨errors_pointedTag, same, same ▸ errors_brokenTag⟩

end

end ScriptLint.Rules
