import ScriptLint.Proofs.Syntax.Breaks
import ScriptLint.Proofs.Syntax.Formula.Numerals
import ScriptLint.Proofs.Syntax.Relexing.Returns

/-!
# Formulas are lexed back

Every leaf of a formula stands before a space and at the end of a text (`Formula.free_leaves`), so
the tokens of the text of a formula are its leaves and the spaces between them (`Formula.lex_text`).
-/

namespace ScriptLint

open Text

namespace Formula

open Lexeme

/-- The operators in front of an operand are punctuation or reserved words. -/
theorem stands_prefixes : ∀ l ∈ prefixes, (l.text, l.kind) ∈ punctuation ∨
    (l.kind = (SyntaxKind.ofReserved? (String.ofList l.text)).getD .ident ∧
      l.text.head?.any isWordStart = true ∧ l.text.tail.all isWordPart = true) := by
  decide

/-- Whether a token stands wherever a space comes behind it or the text ends. -/
structure Free (l : Lexeme) : Prop where
  significant : l.isTrivia = false
  stands : ∀ {behind : Text}, Spaced behind → l.Stands behind

theorem free_punctuation {l : Lexeme} (among : (l.text, l.kind) ∈ punctuation) : Free l := by
  refine ⟨?_, stands_punctuation among⟩
  exact (show ∀ entry ∈ punctuation, entry.2.isTrivia = false by decide) _ among

theorem free_word {kind : SyntaxKind} {first : Char} {rest : Text} (starts : isWordStart first = true)
    (parts : rest.all isWordPart = true)
    (named : kind = (SyntaxKind.ofReserved? (String.ofList (first :: rest))).getD .ident) :
    Free ⟨kind, first :: rest⟩ := by
  subst named
  refine ⟨?_, fun spaced => stands_word starts parts (spaced.any (by decide))⟩
  have word := namesProperty_ofReserved (String.ofList (first :: rest))
  generalize (SyntaxKind.ofReserved? (String.ofList (first :: rest))).getD .ident = kind at word
  refine Bool.eq_false_iff.2 fun trivia => ?_
  cases kind <;> first | exact absurd word (by decide) | cases trivia

theorem free_prefixed {l : Lexeme} (among : l ∈ prefixes) : Free l := by
  obtain ⟨kind, text⟩ := l
  rcases stands_prefixes _ among with mark | ⟨named, word, parts⟩
  · exact free_punctuation mark
  · obtain ⟨first, head, starts⟩ := (Option.any_eq_true _ _).1 word
    obtain ⟨rest, rfl⟩ := List.head?_eq_some_iff.1 head
    exact free_word starts parts named

/-- The leaves of a formula. -/
theorem free_leaves (f : Formula) : ∀ l ∈ f.tree.lexemes, Free l := by
  induction f with
  | name word => exact List.forall_mem_singleton.2 ⟨rfl, word.stands⟩
  | number word numeral => exact List.forall_mem_singleton.2 ⟨rfl, numeral.stands⟩
  | group inner ih =>
    rw [lexemes_group]
    refine List.forall_mem_cons.2 ⟨free_punctuation (by decide), List.forall_mem_append.2 ⟨ih, ?_⟩⟩
    exact List.forall_mem_singleton.2 (free_punctuation (by decide))
  | prefixed operator operand ih =>
    rw [lexemes_prefixed]
    exact List.forall_mem_cons.2 ⟨free_prefixed operator.2, ih⟩
  | binary left operator right ihLeft ihRight =>
    have mark : ∀ l ∈ infixes, (l.text, l.kind) ∈ punctuation := by decide
    rw [lexemes_binary]
    exact List.forall_mem_append.2 ⟨ihLeft,
      List.forall_mem_cons.2 ⟨free_punctuation (mark _ operator.2), ihRight⟩⟩

/-- The tokens with a space behind each, and a semicolon. -/
def spread (ls : List Lexeme) : List Lexeme :=
  ls.flatMap (fun l => [l, ⟨.whitespace, [' ']⟩]) ++ [terminator]

theorem Free.head {l : Lexeme} (free : Free l) (behind : Text) :
    (l.text ++ behind).head?.any isBlank = false := by
  obtain ⟨first, t, text, isOf⟩ := free.stands spaced_nil
  rw [text]
  refine Bool.eq_false_iff.2 fun blank => ?_
  have kind := (isOf 0).kind
  rw [scan, if_pos (by simpa using blank)] at kind
  have significant := free.significant
  rw [isTrivia, ← kind] at significant
  cases significant

theorem head_spread {ls : List Lexeme} (free : ∀ l ∈ ls, Free l) :
    (join (spread ls)).head?.any isBlank = false := by
  cases ls with
  | nil => decide
  | cons l ls => exact (free l List.mem_cons_self).head _

theorem standing_spread {ls : List Lexeme} (free : ∀ l ∈ ls, Free l) : Standing (spread ls) := by
  induction ls with
  | nil => exact ⟨(free_punctuation (by decide)).stands spaced_nil, trivial⟩
  | cons l ls ih =>
    have rest := fun l mem => free l (List.mem_cons_of_mem _ mem)
    refine ⟨(free l List.mem_cons_self).stands ?_, ?_, ih rest⟩
    · intro c head
      exact (Option.some.inj head).symm
    · exact (stands_blank_iff (by decide)).2 ⟨rfl, head_spread rest⟩

theorem join_spread {ls : List Lexeme} (some : ls ≠ []) :
    join (spread ls) = [' '].intercalate (ls.map (·.text)) ++ [' ', ';'] := by
  induction ls with
  | nil => cases some rfl
  | cons l ls ih =>
    have first : join (spread (l :: ls)) = l.text ++ ' ' :: join (spread ls) := rfl
    rw [first]
    cases ls with
    | nil => simp [spread, join, terminator, List.intercalate]
    | cons l' ls =>
      rw [ih (List.cons_ne_nil _ _)]
      simp [List.intercalate]

theorem significant_spread {ls : List Lexeme} (free : ∀ l ∈ ls, Free l) :
    significant (spread ls) = ls ++ [terminator] := by
  induction ls with
  | nil => rfl
  | cons l ls ih =>
    have rest := ih fun l mem => free l (List.mem_cons_of_mem _ mem)
    have first := (free l List.mem_cons_self).significant
    have space : (Lexeme.mk .whitespace [' ']).isTrivia = true := rfl
    rw [List.cons_append, ← rest]
    exact (List.filter_cons_of_pos (by simp [first])).trans
      (congrArg (l :: ·) (List.filter_cons_of_neg (by simp [space])))

/-- The tokens of the text of a formula are its leaves, with spaces. -/
theorem lex_text (f : Formula) : lex f.text = ⟨spread f.tree.lexemes, []⟩ := by
  have some : f.tree.lexemes ≠ [] := by cases f <;> simp
  rw [text, ← join_spread some]
  exact lex_of_standing (standing_spread f.free_leaves)

end Formula

end ScriptLint
