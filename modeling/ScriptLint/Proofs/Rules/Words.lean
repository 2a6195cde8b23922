import ScriptLint.Proofs.Rules.Rows
import ScriptLint.Proofs.Syntax.Plain

/-!
# Words in gaps

A tree may store a reserved word as a name, and a name as a reserved word. What is to be done in a gap
is the same for all words, so the lexemes of a text and the leaves of its tree are mended alike
(`patched_eq`).
-/

namespace ScriptLint

namespace Lexeme

variable {l : Lexeme} {kind : SyntaxKind}

theorem leads_plain (l : Lexeme) : l.plain.leads = l.leads := by
  rw [leads, leads, beq_kind_plain rfl, text_plain]

theorem trails_plain (l : Lexeme) : l.plain.trails = l.trails := by
  rw [trails, trails, beq_kind_plain rfl, text_plain]

theorem kind_stored_eq_iff (other : kind.namesProperty = false) (around : List SyntaxKind) :
    (l.stored around).kind = kind ↔ l.kind = kind := by
  rw [← kind_plain_eq_iff other, plain_stored, kind_plain_eq_iff other]

/-- A lexeme may follow where it may as it is stored. -/
theorem MayFollow.of_stored {around : List SyntaxKind} {before : SyntaxKind}
    (follows : (l.stored around).MayFollow before) : l.MayFollow before := by
  refine ⟨fun number => ⟨?_, fun word => ?_⟩, fun dot => ?_⟩
  · exact fun kind => (follows.1 number).1 ((kind_stored_eq_iff rfl around).2 kind)
  · rcases stored_cases l around with same | ⟨-, name | ⟨text, -⟩⟩
    · rw [same] at follows
      exact (follows.1 number).2 word
    · refine .inr ?_
      rw [name] at follows
      simpa using (follows.1 number).2 rfl
    · exact .inr text
  · exact fun kind => follows.2 dot ((kind_stored_eq_iff rfl around).2 kind)

theorem MayFollow.congr {before before' : SyntaxKind} (follows : l.MayFollow before)
    (number : before' = .number → before = .number) (dot : before' = .dot → before = .dot) :
    l.MayFollow before' :=
  ⟨fun at_ => follows.1 (number at_), fun at_ => follows.2 (dot at_)⟩

theorem Seamed.of_stored {ls : List Lexeme} {leaves : List (List SyntaxKind × Lexeme)}
    (stored : List.Forall₂ StoredAs ls leaves) {before before' : SyntaxKind}
    (seamed : Seamed before (leaves.map Prod.snd)) (number : before' = .number → before = .number)
    (dot : before' = .dot → before = .dot) : Seamed before' ls := by
  induction stored generalizing before before' with
  | nil => trivial
  | @cons l leaf ls leaves same _ ih =>
    have same : leaf.2 = l.stored leaf.1 := same
    obtain ⟨first, rest⟩ := seamed
    rw [same] at first rest
    exact ⟨first.of_stored.congr number dot,
      ih rest (kind_stored_eq_iff rfl _).2 (kind_stored_eq_iff rfl _).2⟩

theorem triviaBehind_map_plain (read : List Lexeme) :
    triviaBehind (read.map plain) = (triviaBehind read).map plain := by
  have trivia : isTrivia ∘ plain = isTrivia := funext isTrivia_plain
  simp [triviaBehind, List.rtakeWhile, ← List.map_reverse, List.takeWhile_map, trivia]

theorem upToLast_map_plain (read : List Lexeme) :
    upToLast (read.map plain) = (upToLast read).map plain := by
  have trivia : isTrivia ∘ plain = isTrivia := funext isTrivia_plain
  simp [upToLast, List.rdropWhile, ← List.map_reverse, List.dropWhile_map, trivia]

theorem lastOf_map_plain (read : List Lexeme) :
    lastOf (read.map plain) = (lastOf read).map plain := by
  rw [lastOf, upToLast_map_plain, List.getLast?_map, lastOf]

end Lexeme

namespace Rules

open Lexeme (join plain triviaBehind lastOf)

namespace Gap

variable {g : Gap}

/-- The gap with all words the same. -/
def plain (g : Gap) : Gap :=
  ⟨g.before.map Lexeme.plain, g.trivia.map Lexeme.plain, g.token.plain, g.tagged⟩

theorem isSpaced_plain (g : Gap) : g.plain.isSpaced = g.isSpaced := by
  have space := Lexeme.beq_kind_plain (show SyntaxKind.whitespace.namesProperty = false from rfl)
  simp [isSpaced, plain, List.any_map, Function.comp_def, space]

theorem endsLine_plain (g : Gap) : g.plain.endsLine = g.endsLine := by
  have line := Lexeme.beq_kind_plain (show SyntaxKind.lineComment.namesProperty = false from rfl)
  simp [endsLine, plain, List.any_map, Function.comp_def, line]

theorem comments_plain (g : Gap) : join g.plain.comments = join g.comments := by
  simp [comments, plain, List.filter_map, Function.comp_def, Lexeme.isComment_plain,
    Lexeme.join_map_plain]

theorem touchesWord_plain (g : Gap) : g.plain.touchesWord = g.touchesWord := by
  cases before : g.before <;> simp [touchesWord, plain, before]

theorem spacingPatches_plain (wide : Bool) (g : Gap) :
    g.plain.spacingPatches wide = g.spacingPatches wide := by
  have trivia : join g.plain.trivia = join g.trivia := Lexeme.join_map_plain _
  simp only [spacingPatches, lacks, exceeds, isSpaced_plain, endsLine_plain, comments_plain, trivia]
  rfl

theorem patches_plain (wide : Bool) (g : Gap) : g.plain.patches wide = g.patches wide := by
  have zero : g.plain.zeroPatches = g.zeroPatches := by
    have leads : g.plain.token.leads = g.token.leads := Lexeme.leads_plain _
    have trails : g.plain.token.trails = g.token.trails := Lexeme.trails_plain _
    have text : g.plain.token.text = g.token.text := Lexeme.text_plain _
    simp only [zeroPatches, touchesWord_plain, leads, trails, text]
  rw [patches, patches, spacingPatches_plain, zero]

theorem fits_plain : g.plain.Fits ↔ g.Fits := by
  have template : g.plain.token.kind = .template ↔ g.token.kind = .template :=
    Lexeme.kind_plain_eq_iff rfl
  have slash : (∃ l, g.plain.before = some l ∧ l.kind ≠ .slash) ↔
      ∃ l, g.before = some l ∧ l.kind ≠ .slash := by
    have kept (l : Lexeme) : l.plain.kind = .slash ↔ l.kind = .slash := Lexeme.kind_plain_eq_iff rfl
    cases before : g.before <;> simp [plain, before, kept]
  constructor <;> intro fits
  · exact ⟨fun tagged => template.1 (fits.template tagged), fun tagged => slash.1 (fits.tag tagged)⟩
  · exact ⟨fun tagged => template.2 (fits.template tagged), fun tagged => slash.2 (fits.tag tagged)⟩

end Gap

/-- The spot with all words the same. -/
def Spot.plain (s : Spot) : Spot := ⟨s.span, s.gap.plain⟩

variable {ls ls' : List Lexeme}

theorem spots_map_plain (read : List Lexeme) (marks : List Bool) (ls : List Lexeme) :
    spots (read.map plain) marks (ls.map plain) = (spots read marks ls).map Spot.plain := by
  induction ls generalizing read marks with
  | nil => rfl
  | cons l ls ih =>
    have later : ∀ marks, spots (read.map plain ++ [l.plain]) marks (ls.map plain) =
        (spots (read ++ [l]) marks ls).map Spot.plain := by
      intro marks
      simpa using ih (read ++ [l]) marks
    by_cases trivia : l.isTrivia
    · simp [spots, trivia, Lexeme.isTrivia_plain, later]
    · simp [spots, trivia, Lexeme.isTrivia_plain, later, Lexeme.lastOf_map_plain,
        Lexeme.upToLast_map_plain, Lexeme.triviaBehind_map_plain, Lexeme.join_map_plain, Gap.plain,
        Spot.plain]

/-- The spots of texts that are the same up to which words their words are. -/
theorem map_plain_spots (same : ls.map plain = ls'.map plain) (marks : List Bool) :
    (spots [] marks ls).map Spot.plain = (spots [] marks ls').map Spot.plain := by
  rw [← spots_map_plain, same, spots_map_plain]

theorem map_plain_gaps (same : ls.map plain = ls'.map plain) (marks : List Bool) :
    (gaps [] marks ls).map Gap.plain = (gaps [] marks ls').map Gap.plain := by
  have gaps_eq (ls : List Lexeme) : (gaps [] marks ls).map Gap.plain =
      ((spots [] marks ls).map Spot.plain).map Spot.gap := by
    rw [← map_gap_spots, List.map_map, List.map_map]
    rfl
  rw [gaps_eq, gaps_eq, map_plain_spots same]

/-- Texts are patched alike if they are the same up to which words their words are. -/
theorem pieces_eq {p : Gap → List Patch} (unworded : ∀ g, p g.plain = p g)
    (same : ls.map plain = ls'.map plain) (marks : List Bool) :
    pieces p [] marks ls = pieces p [] marks ls' := by
  have flat : ∀ ls, (gaps [] marks ls).flatMap p = ((gaps [] marks ls).map Gap.plain).flatMap p := by
    intro ls
    simp [List.flatMap_map, unworded]
  have behind : join (triviaBehind ls) = join (triviaBehind ls') := by
    rw [← Lexeme.join_map_plain, ← Lexeme.triviaBehind_map_plain, same,
      Lexeme.triviaBehind_map_plain, Lexeme.join_map_plain]
  rw [pieces, pieces, flat ls, flat ls', map_plain_gaps same, List.nil_append, List.nil_append,
    behind]

theorem patched_eq (same : ls.map plain = ls'.map plain) (wide : Bool) (marks : List Bool) :
    patched wide [] marks ls = patched wide [] marks ls' :=
  pieces_eq (Gap.patches_plain wide) same marks

theorem fits_gaps (same : ls.map plain = ls'.map plain) {marks : List Bool}
    (fits : ∀ g ∈ gaps [] marks ls, g.Fits) : ∀ g ∈ gaps [] marks ls', g.Fits := by
  intro g mem
  have plainMem : g.plain ∈ (gaps [] marks ls).map Gap.plain := by
    rw [map_plain_gaps same]
    exact List.mem_map_of_mem mem
  obtain ⟨h, among, eq⟩ := List.mem_map.1 plainMem
  rw [← Gap.fits_plain, ← eq, Gap.fits_plain]
  exact fits h among

end Rules

end ScriptLint
