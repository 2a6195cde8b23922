import ScriptLint.Proofs.Syntax.Lossless

/-!
# Plain words

A tree may store a reserved word as a name, and a name as a reserved word. With all words taken for
names, the leaves of a tree are the lexemes of its text (`map_plain_parse`).
-/

namespace ScriptLint

open ScriptLint.Tree (lexemesOf)

namespace Lexeme

/-- The lexeme with the kind of a name if it is a word. -/
def plain (l : Lexeme) : Lexeme := if l.kind.namesProperty then ⟨.ident, l.text⟩ else l

variable {l : Lexeme} {kind : SyntaxKind}

@[simp] theorem text_plain (l : Lexeme) : l.plain.text = l.text := by
  unfold plain
  split <;> rfl

theorem plain_of_word (word : l.kind.namesProperty = true) : l.plain = ⟨.ident, l.text⟩ :=
  if_pos word

theorem plain_of_not_word (other : l.kind.namesProperty = false) : l.plain = l :=
  if_neg (by simp [other])

/-- What is no word is told by its kind. -/
theorem kind_plain_eq_iff (other : kind.namesProperty = false) :
    l.plain.kind = kind ↔ l.kind = kind := by
  cases word : l.kind.namesProperty with
  | false => rw [plain_of_not_word word]
  | true =>
    rw [plain_of_word word]
    constructor <;> rintro rfl
    · cases other
    · rw [word] at other
      cases other

theorem beq_kind_plain (other : kind.namesProperty = false) (l : Lexeme) :
    (l.plain.kind == kind) = (l.kind == kind) := by
  rw [Bool.eq_iff_iff, beq_iff_eq, beq_iff_eq, kind_plain_eq_iff other]

theorem isComment_plain (l : Lexeme) : l.plain.kind.isComment = l.kind.isComment := by
  cases word : l.kind.namesProperty with
  | false => rw [plain_of_not_word word]
  | true =>
    rw [plain_of_word word]
    cases kind : l.kind <;> simp_all [SyntaxKind.isComment] <;> cases word

theorem isTrivia_plain (l : Lexeme) : l.plain.isTrivia = l.isTrivia := by
  cases word : l.kind.namesProperty with
  | false => rw [plain_of_not_word word]
  | true =>
    rw [plain_of_word word, isTrivia, isTrivia]
    cases kind : l.kind <;> simp_all [SyntaxKind.isTrivia] <;> cases word

theorem join_map_plain (ls : List Lexeme) : join (ls.map plain) = join ls := by
  simp [join, List.flatMap_map]

/-- Only words are stored as what they are not, and only as words. -/
theorem stored_cases (l : Lexeme) (around : List SyntaxKind) :
    l.stored around = l ∨ l.kind.namesProperty = true ∧
      (l.stored around = ⟨.ident, l.text⟩ ∨
        l.text = ['o', 'f'] ∧ l.stored around = ⟨.ofKeyword, l.text⟩) := by
  unfold stored
  split
  · rename_i property
    exact .inr ⟨by simp [SyntaxKind.namesProperty, property.2], .inl rfl⟩
  split
  · rename_i loop
    refine .inr ⟨by rw [loop.2]; rfl, .inr ⟨by rw [loop.2], rfl⟩⟩
  · exact .inl rfl

theorem plain_stored (l : Lexeme) (around : List SyntaxKind) : (l.stored around).plain = l.plain := by
  rcases stored_cases l around with same | ⟨word, name | ⟨-, keyword⟩⟩
  · rw [same]
  · rw [name, plain_of_word word]
    rfl
  · rw [keyword, plain_of_word word]
    rfl

theorem map_plain_of_stored {ls : List Lexeme} {leaves : List (List SyntaxKind × Lexeme)}
    (stored : List.Forall₂ StoredAs ls leaves) : (leaves.map Prod.snd).map plain = ls.map plain := by
  induction stored with
  | nil => rfl
  | cons same _ ih => rw [List.map_cons, List.map_cons, ih, same, plain_stored, List.map_cons]

end Lexeme

section
variable {ls : List Lexeme} (real : ∀ l ∈ ls, l.kind ≠ .endOfInput)
include real

theorem map_plain_programBody :
    (lexemesOf (programBody ls).out).map Lexeme.plain = ls.map Lexeme.plain := by
  rw [← Lexeme.map_plain_of_stored (programBody_spells real [] trivial), Tree.map_placedAll]

/-- The trees of a program hold as many tokens as its text. -/
theorem countP_programBody : (lexemesOf (programBody ls).out).countP (fun l => ! l.isTrivia) =
    ls.countP fun l => ! l.isTrivia := by
  have count : ∀ ls : List Lexeme, (ls.countP fun l => ! l.isTrivia) =
      (ls.map Lexeme.plain).countP fun l => ! l.isTrivia := by
    intro ls
    simp [List.countP_map, Function.comp_def, Lexeme.isTrivia_plain]
  rw [count, map_plain_programBody real, ← count]

end

/-- The leaves of the tree are the lexemes of the text, up to which words its words are. -/
theorem map_plain_parse (text : Text) :
    (lexemesOf (programBody (lex text).lexemes).out).map Lexeme.plain =
      (lex text).lexemes.map Lexeme.plain :=
  map_plain_programBody (Lexeme.kind_of_mem_lexFrom 0 text)

end ScriptLint
