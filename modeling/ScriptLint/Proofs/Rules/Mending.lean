import ScriptLint.Proofs.Rules.MendedText
import ScriptLint.Proofs.Rules.Sites
import ScriptLint.Proofs.Rules.Words
import ScriptLint.Proofs.Syntax.Lossless
import ScriptLint.Proofs.Syntax.Mirrored.Statement
import ScriptLint.Proofs.Syntax.Neat.Statement

/-!
# Mended texts

Of a text that parses, the tree tells which templates are tagged, and with that its gaps are settled
(`gapsOf`). If a parser sees the same of its gaps made anew, the text with these parses too, into the
same tree up to trivia and spelling (`parse_remade`), so its gaps are those that were made
(`gapsOf_remade`). With its gaps as they ought to be it parses into the same tree up to trivia and the
zeros of its numbers (`parse_mendedText`), and no gap is to be mended (`edits_gapsOf_mendedText`).
-/

namespace ScriptLint.Rules

open Lexeme (join plain triviaBehind lastOf Seamed Standing)
open ScriptLint.Tree (lexemesOf tagsOf bareOf)

variable {text : Text} {wide : Bool}

/-- The gaps of a text. -/
def gapsOf (text : Text) : List Gap := gaps [] (parse text).tree.tags (lex text).lexemes

/-- A text with its gaps as they ought to be. -/
def mendedText (wide : Bool) (text : Text) : Text :=
  join (mended wide [] (parse text).tree.tags (lex text).lexemes)

theorem tags_program (ts : List Tree) : (Tree.node .program ts).tags = tagsOf ts := by
  rw [Tree.tags, if_neg (by decide)]

theorem tags_parse (text : Text) :
    (parse text).tree.tags = tagsOf (programBody (lex text).lexemes).out :=
  tags_program _

theorem length_tags_parse (text : Text) :
    (parse text).tree.tags.length = (lex text).lexemes.countP fun l => ! l.isTrivia := by
  rw [tags_parse, Tree.length_tagsOf]
  exact countP_programBody (Lexeme.kind_of_mem_lexFrom 0 text)

theorem join_parse (text : Text) : join (lexemesOf (programBody (lex text).lexemes).out) = text := by
  rw [← Lexeme.join_map_plain, map_plain_parse, Lexeme.join_map_plain, join_lex]

section
variable (parses : (parse text).errors = [])
include parses

theorem standing_of_parses : Standing (lex text).lexemes := standing_lex (errors_parse.1 parses).1

theorem joined_of_parses : Joined .semicolon (programBody (lex text).lexemes).out :=
  joined_programBody (errors_parse.1 parses).2

theorem seamed_of_parses : Seamed .semicolon (lex text).lexemes := by
  refine Seamed.of_stored (parse_spells text) ?_ id id
  rw [Tree.map_placed]
  exact (joined_of_parses parses).seamed

theorem filled_of_parses :
    ∀ l ∈ lexemesOf (programBody (lex text).lexemes).out, l.text ≠ [] := by
  intro l mem
  have among : l.plain ∈ (lex text).lexemes.map plain := by
    rw [← map_plain_parse]
    exact List.mem_map_of_mem mem
  obtain ⟨raw, read, same⟩ := List.mem_map.1 among
  obtain ⟨behind, stands⟩ := Lexeme.stands_of_mem (standing_of_parses parses) read
  rw [← Lexeme.text_plain, ← same, Lexeme.text_plain]
  exact stands.ne_nil

theorem fits_gapsOf : ∀ g ∈ gapsOf text, g.Fits := by
  rw [gapsOf, tags_parse]
  refine fits_gaps (map_plain_parse text) (fits_all (fun t mem => ?_) [])
  exact fitting_formed ((joined_of_parses parses).formed t mem)

theorem seamed_gapsOf : ∀ g ∈ gapsOf text, g.Seamed :=
  seamed_of_mem_gaps _ (seamed_of_parses parses)

end

/-! ### Gaps in their places -/

/-- The gaps of a text, in their places. -/
def spotsOf (text : Text) : List Spot := spots [] (parse text).tree.tags (lex text).lexemes

theorem map_gap_spotsOf (text : Text) : (spotsOf text).map Spot.gap = gapsOf text :=
  map_gap_spots [] _ _

/-- The spots of a tree are those of its text, up to which words its words are. -/
theorem map_plain_spotsOf (text : Text) :
    (spots [] (tagsOf (programBody (lex text).lexemes).out)
        (lexemesOf (programBody (lex text).lexemes).out)).map Spot.plain =
      (spotsOf text).map Spot.plain := by
  rw [spotsOf, tags_parse]
  exact map_plain_spots (map_plain_parse text) _

theorem exists_gap_of_mem_spots {s : Spot} (mem : s ∈ spots []
      (tagsOf (programBody (lex text).lexemes).out)
      (lexemesOf (programBody (lex text).lexemes).out)) :
    ∃ g ∈ gapsOf text, g.plain = s.gap.plain := by
  have plain : s.plain ∈ (spotsOf text).map Spot.plain := by
    rw [← map_plain_spotsOf]
    exact List.mem_map_of_mem mem
  obtain ⟨t, among, same⟩ := List.mem_map.1 plain
  refine ⟨t.gap, ?_, congrArg Spot.gap same⟩
  rw [← map_gap_spotsOf]
  exact List.mem_map_of_mem among

/-- What does not depend on which words words are is told by the spots of the text. -/
theorem map_filter_spotsOf {α : Type} {p : Spot → Bool} {f : Spot → α}
    (filters : ∀ s, p s.plain = p s) (tells : ∀ s, f s.plain = f s) (text : Text) :
    ((spots [] (tagsOf (programBody (lex text).lexemes).out)
        (lexemesOf (programBody (lex text).lexemes).out)).filter p).map f =
      ((spotsOf text).filter p).map f := by
  have plain (ss : List Spot) : (ss.filter p).map f = ((ss.map Spot.plain).filter p).map f := by
    have same : p ∘ Spot.plain = p := funext filters
    rw [List.filter_map, same, List.map_map]
    exact List.map_congr_left fun s _ => (tells s).symm
  rw [plain, plain (spotsOf text), map_plain_spotsOf]

/-! ### Texts whose gaps are made anew -/

section
variable {f : Gap → Gap} {spell : Lexeme → Lexeme} {marks : List Bool}

/-- If the lexemes that are put there can stand before one another, and what a parser sees of the gaps
is the same, a text whose gaps are made anew parses into the same tree up to trivia and spelling. -/
theorem parse_remade (remakes : Gap.Remakes spell f) (parses : (parse text).errors = [])
    (standing : Standing (remade f [] marks (lex text).lexemes))
    (along : Lexeme.Along spell (parse text).tree.tags
      ((gaps [] marks (lex text).lexemes).map Gap.item)
      ((gaps [] marks (lex text).lexemes).map fun g => (f g).item)) :
    (parse (join (remade f [] marks (lex text).lexemes))).errors = [] ∧
      Tree.bare id (parse (join (remade f [] marks (lex text).lexemes))).tree =
        Tree.bare spell (parse text).tree := by
  have read := lex_of_standing standing
  have items : Lexeme.items false (lex text).lexemes = _ := (map_item_gaps [] marks _).symm
  have remadeItems := items_remade remakes marks (lex text).lexemes
  rw [← items, ← remadeItems, tags_parse] at along
  have lexemes : (lex (join (remade f [] marks (lex text).lexemes))).lexemes =
      remade f [] marks (lex text).lexemes := by rw [read]
  rw [← lexemes] at along
  obtain ⟨clean, bare⟩ := echoes_programBody remakes.respells (errors_parse.1 parses).2 along
  refine ⟨errors_parse.2 ⟨by rw [read], clean⟩, ?_⟩
  exact congrArg (fun ts => [Tree.node .program ts]) bare

/-- The gaps of such a text are those that were made. -/
theorem gapsOf_remade (remakes : Gap.Remakes spell f)
    (standing : Standing (remade f [] (parse text).tree.tags (lex text).lexemes))
    (bare : Tree.bare id
        (parse (join (remade f [] (parse text).tree.tags (lex text).lexemes))).tree =
      Tree.bare spell (parse text).tree) :
    gapsOf (join (remade f [] (parse text).tree.tags (lex text).lexemes)) =
      (gapsOf text).map f := by
  have tags := congrArg tagsOf bare
  rw [Tree.tagsOf_bare Lexeme.respells_id, Tree.tagsOf_bare remakes.respells] at tags
  rw [gapsOf, tags, lex_of_standing standing]
  exact gaps_remade remakes _ rfl rfl

end

/-! ### Mended texts -/

section
variable (parses : (parse text).errors = [])
include parses

theorem standing_mendedText (wide : Bool) :
    Standing (mended wide [] (parse text).tree.tags (lex text).lexemes) :=
  standing_mended (fits_gapsOf parses) (seamed_of_parses parses) (standing_of_parses parses)

/-- A mended text parses, into the same tree up to trivia and the zeros of its numbers. -/
theorem parse_mendedText (wide : Bool) : (parse (mendedText wide text)).errors = [] ∧
    Tree.bare id (parse (mendedText wide text)).tree = Tree.bare Lexeme.zeroed (parse text).tree := by
  have along := Gap.along_mended wide (fits_gapsOf parses)
  have tags := map_tagged_gaps [] (length_tags_parse text)
  rw [gapsOf, tags] at along
  exact parse_remade (Gap.remakes_mended wide) parses (standing_mendedText parses wide) along

/-- The gaps of a mended text are those that were put there. -/
theorem gapsOf_mendedText (wide : Bool) :
    gapsOf (mendedText wide text) = (gapsOf text).map (Gap.mended wide) :=
  gapsOf_remade (Gap.remakes_mended wide) (standing_mendedText parses wide)
    (parse_mendedText parses wide).2

/-- None of the gaps of a mended text is to be mended. -/
theorem edits_gapsOf_mendedText (wide : Bool) : ∀ g ∈ gapsOf (mendedText wide text), ∀ start,
    Patch.edits start (g.patches wide) = [] := by
  rw [gapsOf_mendedText parses]
  intro g mem start
  obtain ⟨original, among, rfl⟩ := List.mem_map.1 mem
  have token : original.token ∈ (lex text).lexemes := by
    have tokens : original.token ∈ (gapsOf text).map Gap.token := List.mem_map_of_mem among
    rw [gapsOf, map_token_gaps] at tokens
    exact (List.mem_filter.1 tokens).1
  obtain ⟨behind, stands⟩ := Lexeme.stands_of_mem (standing_of_parses parses) token
  exact original.edits_patches_mended (fits_gapsOf parses original among) stands start

end

end ScriptLint.Rules
