import ScriptLint.Proofs.Rules.Mending
import ScriptLint.Proofs.Source.Unspaced

/-!
# Texts with their tags spaced

If numbers are left as they are, mending a text does nothing but put space between tags and their
templates, or take it out (`spacedText`). Of a text that parses, the spaced text parses too, into the
same tree up to white space (`unspaced_spacedText`), and its gaps are those that were put there
(`gapsOf_spacedText`).
-/

namespace ScriptLint.Rules

open Lexeme Text

namespace Gap

variable {wide : Bool} {g : Gap}

/-- The gap with the space behind a tag as it ought to be. -/
def spaced (wide : Bool) (g : Gap) : Gap := { g with trivia := g.spacing wide }

/-- The gap with what is put in place of its trivia. -/
def spacedPatches (wide : Bool) (g : Gap) : List Patch :=
  g.spacingPatches wide ++ [.keep g.token.text]

theorem remakes_spaced (wide : Bool) : Remakes id (spaced wide) where
  respells := Lexeme.respells_id
  before _ := Option.map_id_apply.symm
  trivia := isTrivia_spacing
  token _ := rfl
  tagged _ := rfl

theorem source_spacedPatches (wide : Bool) (g : Gap) :
    Patch.source (g.spacedPatches wide) = join g.lexemes := by
  rw [spacedPatches, Patch.source_append, source_spacingPatches, lexemes, Lexeme.join_append]
  simp [Patch.source, Patch.keep, join]

theorem output_spacedPatches (wide : Bool) (g : Gap) :
    Patch.output (g.spacedPatches wide) = join (g.spaced wide).lexemes := by
  rw [spacedPatches, Patch.output_append, output_spacingPatches, lexemes, spaced,
    Lexeme.join_append]
  simp [Patch.output, Patch.result, Patch.keep, join]

theorem edits_spacedPatches (wide : Bool) (g : Gap) (start : Nat) :
    Patch.edits start (g.spacedPatches wide) = Patch.edits start (g.spacingPatches wide) := by
  rw [spacedPatches, Patch.edits_append]
  exact List.append_nil _

theorem spacing_untagged (untagged : g.tagged = false) (wide : Bool) :
    g.spacing wide = g.trivia := by
  simp [spacing, lacks, exceeds, untagged]

theorem spacingPatches_untagged (untagged : g.tagged = false) (wide : Bool) :
    g.spacingPatches wide = [.keep (join g.trivia)] := by
  simp [spacingPatches, lacks, exceeds, untagged]

/-- Behind a tag, all that there is to mend is the space. -/
theorem trivia_mended_tagged (fits : g.Fits) (tagged : g.tagged = true) :
    (g.mended wide).trivia = g.spacing wide := by
  simp [mended, fits.parts tagged]

theorem Fits.zeroed (fits : g.Fits) (tagged : g.tagged = true) : g.token.zeroed = g.token := by
  refine Lexeme.zeroed_of_ne ?_
  rw [fits.template tagged]
  decide

theorem lacks_spaced (fits : g.Fits) : (g.spaced wide).lacks wide = false := by
  cases tagged : g.tagged with
  | false => simp [lacks, spaced, tagged]
  | true =>
    have kept : (g.mended wide).tagged = g.tagged := rfl
    have mended : (g.mended wide).lacks wide = false := g.lacks_mended fits
    simpa [lacks, isSpaced, spaced, trivia_mended_tagged fits tagged, kept] using mended

theorem exceeds_spaced (fits : g.Fits) : (g.spaced wide).exceeds wide = false := by
  cases tagged : g.tagged with
  | false => simp [exceeds, spaced, tagged]
  | true =>
    have kept : (g.mended wide).tagged = g.tagged := rfl
    have mended : (g.mended wide).exceeds wide = false := g.exceeds_mended fits
    simpa [exceeds, isSpaced, endsLine, spaced, trivia_mended_tagged fits tagged, kept] using mended

theorem spaced_of_spacing (same : g.spacing wide = g.trivia) : g.spaced wide = g := by
  rw [spaced, same]

/-- Where there ought to be space, a blank is put behind a tag with none. -/
theorem spaced_wide (g : Gap) : g.spaced true =
    if g.tagged && ! g.isSpaced then { g with trivia := space :: g.trivia } else g := by
  have exceeds : g.exceeds true = false := by simp [Gap.exceeds]
  have lacks : g.lacks true = (g.tagged && ! g.isSpaced) := by simp [Gap.lacks]
  cases asked : g.tagged && ! g.isSpaced with
  | true => simp [spaced, spacing, lacks, asked]
  | false => exact spaced_of_spacing (by simp [spacing, lacks, exceeds, asked])

/-- Where there ought to be none, the comments are left, if all of them end before their lines do. -/
theorem spaced_narrow (trivia : ∀ l ∈ g.trivia, l.isTrivia = true) : g.spaced false =
    if g.tagged && ! g.endsLine then { g with trivia := g.comments } else g := by
  have lacks : g.lacks false = false := by simp [Gap.lacks]
  have exceeds : g.exceeds false = ((g.tagged && ! g.endsLine) && g.isSpaced) := by
    simp only [Gap.exceeds, Bool.not_false, Bool.and_true, Bool.and_right_comm]
  cases asked : g.tagged && ! g.endsLine with
  | false => exact spaced_of_spacing (by simp [spacing, lacks, exceeds, asked])
  | true =>
    cases already : g.isSpaced with
    | true => simp [spaced, spacing, lacks, exceeds, asked, already]
    | false =>
      have comments : g.comments = g.trivia :=
        List.filter_eq_self.2 (isComment_of_unspaced trivia already)
      simp [spaced, spacing, lacks, exceeds, already, comments]

theorem along_spaced (wide : Bool) {gs : List Gap} (fits : ∀ g ∈ gs, g.Fits) :
    Lexeme.Along id (gs.map tagged) (gs.map item) (gs.map fun g => (g.spaced wide).item) := by
  induction gs with
  | nil => exact .nil
  | cons g gs ih =>
    refine .cons ?_ (ih fun h mem => fits h (List.mem_cons_of_mem g mem))
    cases tagged : g.tagged with
    | true => exact .inr ⟨rfl, (fits g List.mem_cons_self).template tagged⟩
    | false => exact .inl (by simp [spaced, spacing_untagged tagged])

/-- Only white space is put in a gap or taken out. -/
theorem filter_spaced (trivia : ∀ l ∈ g.trivia, l.isTrivia = true) :
    (g.spaced wide).lexemes.filter (fun l => ! l.isWhite) =
      g.lexemes.filter fun l => ! l.isWhite := by
  have comments : g.comments.filter (fun l => ! l.isWhite) =
      g.trivia.filter fun l => ! l.isWhite := by
    rw [Gap.comments, List.filter_filter]
    refine List.filter_congr fun l mem => ?_
    have trivia := trivia l mem
    rw [Lexeme.isTrivia] at trivia
    cases kind : l.kind <;>
      simp_all [SyntaxKind.isTrivia, SyntaxKind.isComment, Lexeme.isWhite]
  have spacing : (g.spacing wide).filter (fun l => ! l.isWhite) =
      g.trivia.filter fun l => ! l.isWhite := by
    unfold Gap.spacing
    split
    · rfl
    split
    · exact comments
    · rfl
  rw [lexemes, lexemes, List.filter_append, List.filter_append]
  exact congrArg (· ++ _) spacing

namespace Lies

variable {ls rest : List Lexeme} {p : Lexeme}

theorem head_kept (stands : g.token.Stands (join ls)) (token : g.token.Stands (join rest)) :
    (join (g.token :: rest)).head? = (join (g.token :: ls)).head? := by
  rw [head_join token.ne_nil, head_join stands.ne_nil]

section
variable (lies : g.Lies ls ls) (token : g.token.Stands (join rest)) (behind : Standing rest)
include lies token

/-- What is made anew behind a gap does not matter to its trivia. -/
theorem standing_kept (behind : Standing rest) : Standing (g.trivia ++ g.token :: rest) :=
  standing_of_softens lies.trivia lies.standing ⟨token, behind⟩
    fun _ _ => softens_of_head (head_kept lies.stands token)

theorem before_kept (before : g.before = some p)
    (original : p.Stands (join (g.trivia ++ g.token :: ls))) :
    p.Stands (join (g.trivia ++ g.token :: rest)) := by
  refine original.of_head ?_ (lies.head_of_number before)
  cases eq : g.trivia with
  | nil => exact head_kept lies.stands token
  | cons t ts =>
    have among : t ∈ g.trivia := by simp [eq]
    obtain ⟨_, filled⟩ := stands_of_mem lies.standing (List.mem_append_left _ among)
    rw [List.cons_append, List.cons_append, head_join filled.ne_nil, head_join filled.ne_nil]

include behind

theorem behind_tag (tagged : g.tagged = true) : g.Lies ls rest :=
  lies.mended_behind (by rwa [lies.fits.zeroed tagged]) behind

theorem standing_spaced (wide : Bool) : Standing ((g.spaced wide).lexemes ++ rest) := by
  cases tagged : g.tagged with
  | false =>
    have same : (g.spaced wide).lexemes ++ rest = g.trivia ++ g.token :: rest := by
      simp [lexemes, spaced, spacing_untagged tagged]
    rw [same]
    exact lies.standing_kept token behind
  | true =>
    have mended := (lies.behind_tag token behind tagged).standing_mended wide
    rwa [lexemes, trivia_mended_tagged lies.fits tagged,
      show (g.mended wide).token = g.token from lies.fits.zeroed tagged] at mended

theorem before_spaced (wide : Bool) (before : g.before = some p)
    (significant : p.isTrivia = false) (original : p.Stands (join (g.trivia ++ g.token :: ls))) :
    p.Stands (join ((g.spaced wide).lexemes ++ rest)) := by
  have parts : (g.spaced wide).lexemes ++ rest = g.spacing wide ++ g.token :: rest := by
    simp [lexemes, spaced]
  rw [parts, Gap.spacing]
  split
  · exact original.before (joints_apart_blank significant) (by decide) _
  split
  · -- without the space the first comment comes right behind the tag, whose end is no slash
    rename_i exceeds
    simp only [Gap.exceeds, Bool.and_eq_true] at exceeds
    have tagged := exceeds.1.1.1
    obtain ⟨tag, last, slash⟩ := lies.fits.tag tagged
    obtain rfl : p = tag := Option.some.inj (before.symm.trans last)
    have comments := (lies.behind_tag token behind tagged).before_comments
      (lies.fits.template tagged) significant slash original
    rwa [lies.fits.zeroed tagged] at comments
  · exact lies.before_kept token before original

end

end Lies

theorem keepsApart_spaced (wide : Bool) : KeepsApart id (spaced wide) where
  respelled stands := stands
  standing lies token behind := lies.standing_spaced token behind wide
  before lies token behind before significant original :=
    lies.before_spaced token behind wide before significant original

end Gap

variable {wide : Bool} {text : Text}

/-- In front of a template there is white space behind a comment that runs to the end of its line. -/
theorem isSpaced_of_endsLine {g : Gap} (parses : (parse text).errors = []) (mem : g ∈ gapsOf text)
    (tagged : g.tagged = true) (ends : g.endsLine = true) : g.isSpaced = true := by
  obtain ⟨t, among, line⟩ := List.any_eq_true.1 ends
  obtain ⟨rest, standing⟩ := @exists_standing_of_mem_gaps [] _ _ g (standing_of_parses parses) mem
  by_contra unspaced
  exact not_all_comments among (by simpa using line) ((fits_gapsOf parses g mem).template tagged)
    standing (Gap.isComment_of_unspaced (isTrivia_of_mem_gaps mem) (Bool.eq_false_iff.2 unspaced))

/-- A text with the space behind its tags as it ought to be. -/
def spacedText (wide : Bool) (text : Text) : Text :=
  join (remade (Gap.spaced wide) [] (parse text).tree.tags (lex text).lexemes)

/-- The lexemes of a spaced text are those of the text, white space apart. -/
theorem filter_remade_spaced (wide : Bool) (read : List Lexeme) (marks : List Bool)
    (ls : List Lexeme) :
    (remade (Gap.spaced wide) read marks ls).filter (fun l => ! l.isWhite) =
      (triviaBehind read ++ ls).filter fun l => ! l.isWhite := by
  induction ls generalizing read marks with
  | nil => simp [remade, gaps]
  | cons l ls ih =>
    by_cases trivia : l.isTrivia
    · rw [remade_trivia trivia, ih, triviaBehind_trivia trivia, List.append_assoc]
      rfl
    · have significant : l.isTrivia = false := by simpa using trivia
      have gap := @Gap.filter_spaced wide ⟨lastOf read, triviaBehind read, l, marks.headD false⟩
        fun _ => isTrivia_of_mem_triviaBehind
      rw [remade_significant significant, List.filter_append, gap, ih,
        triviaBehind_significant significant, List.nil_append, ← List.filter_append, Gap.lexemes,
        List.append_assoc]
      rfl

section
variable (parses : (parse text).errors = []) (wide : Bool)
include parses

theorem standing_spacedText :
    Standing (remade (Gap.spaced wide) [] (parse text).tree.tags (lex text).lexemes) :=
  standing_remade (Gap.keepsApart_spaced wide) (fits_gapsOf parses) (seamed_of_parses parses)
    (standing_of_parses parses)

/-- A spaced text has the tokens and comments of the text, and between them other white space. -/
theorem lexemes_spacedText :
    (lex (spacedText wide text)).lexemes.filter (fun l => ! l.isWhite) =
      (lex text).lexemes.filter fun l => ! l.isWhite := by
  rw [spacedText, lex_of_standing (standing_spacedText parses wide)]
  exact filter_remade_spaced wide [] _ _

/-- A spaced text parses, into the same tree up to trivia. -/
theorem parse_spacedText : (parse (spacedText wide text)).errors = [] ∧
    Tree.bare id (parse (spacedText wide text)).tree = Tree.bare id (parse text).tree := by
  have along := Gap.along_spaced wide (fits_gapsOf parses)
  have tags := map_tagged_gaps [] (length_tags_parse text)
  rw [gapsOf, tags] at along
  exact parse_remade (Gap.remakes_spaced wide) parses (standing_spacedText parses wide) along

/-- A spaced text has the tree of the text up to white space. -/
theorem unspaced_spacedText :
    Tree.unspaced (parse (spacedText wide text)).tree = Tree.unspaced (parse text).tree :=
  unspaced_parse (parse_spacedText parses wide).1 parses (parse_spacedText parses wide).2
    (lexemes_spacedText parses wide)

/-- The gaps of a spaced text are those that were put there. -/
theorem gapsOf_spacedText :
    gapsOf (spacedText wide text) = (gapsOf text).map (Gap.spaced wide) :=
  gapsOf_remade (Gap.remakes_spaced wide) (standing_spacedText parses wide)
    (parse_spacedText parses wide).2

end

/-! ### What is put between tags and templates -/

theorem Gap.spacedPatches_plain (wide : Bool) (g : Gap) :
    g.plain.spacedPatches wide = g.spacedPatches wide := by
  have text : g.plain.token.text = g.token.text := Lexeme.text_plain _
  rw [spacedPatches, spacedPatches, spacingPatches_plain, text]

/-- The text with what is put in place of the trivia behind its tags. -/
def spacingPatchesOf (wide : Bool) (text : Text) : List Patch :=
  pieces (Gap.spacedPatches wide) [] (parse text).tree.tags (lex text).lexemes

theorem source_spacingPatchesOf (wide : Bool) (text : Text) :
    Patch.source (spacingPatchesOf wide text) = text :=
  (source_pieces (Gap.source_spacedPatches wide) [] _ _).trans (join_lex text)

theorem output_spacingPatchesOf (wide : Bool) (text : Text) :
    Patch.output (spacingPatchesOf wide text) = spacedText wide text :=
  output_pieces (Gap.output_spacedPatches wide) [] _ _

theorem Gap.apart_spacedPatches {g : Gap} {rest : List Patch} (filled : ∀ l ∈ g.lexemes, l.text ≠ [])
    (apart : Patch.Apart false rest) : Patch.Apart false (g.spacedPatches wide ++ rest) := by
  have token : g.token.text.isEmpty = false := by
    simpa using filled g.token (by simp [lexemes])
  rw [spacedPatches, List.append_assoc, spacingPatches]
  split
  · simp [Patch.Apart, Patch.change, Patch.keep, token, apart]
  split <;> simp [Patch.Apart, Patch.change, Patch.keep, token, apart]

/-- No two edits of a text with its tags spaced have one span. -/
theorem spans_spacingPatchesOf (parses : (parse text).errors = []) (wide : Bool) :
    ((Patch.edits 0 (spacingPatchesOf wide text)).map Edit.span).Nodup := by
  have apart : Patch.Apart ((Lexeme.lastOf []).any fun _ => false) (spacingPatchesOf wide text) := by
    refine apart_pieces fun g mem rest apart => ?_
    have before : g.before.any (fun _ => false) = false := by cases g.before <;> rfl
    rw [before]
    refine Gap.apart_spacedPatches (fun l among => ?_) apart
    obtain ⟨behind, stands⟩ :=
      Lexeme.stands_of_mem (standing_of_parses parses) (mem_of_mem_gaps mem l among)
    exact stands.ne_nil
  exact (Patch.spans_nodup apart 0).1

section
variable (parses : (parse text).errors = []) (wide : Bool)
include parses

theorem settled_spacedText : ∀ g ∈ gapsOf (spacedText wide text),
    g.lacks wide = false ∧ g.exceeds wide = false := by
  rw [gapsOf_spacedText parses]
  intro g mem
  obtain ⟨original, among, rfl⟩ := List.mem_map.1 mem
  have fits := fits_gapsOf parses original among
  exact ⟨Gap.lacks_spaced fits, Gap.exceeds_spaced fits⟩

/-- There is nothing to put in place of the trivia of a spaced text. -/
theorem edits_spacedText : Patch.edits 0 (spacingPatchesOf wide (spacedText wide text)) = [] := by
  refine edits_pieces_of_gaps (Gap.source_spacedPatches wide) fun g mem start => ?_
  obtain ⟨lacks, exceeds⟩ := settled_spacedText parses wide g mem
  rw [Gap.edits_spacedPatches, Gap.spacingPatches, lacks, exceeds]
  rfl

end

end ScriptLint.Rules
