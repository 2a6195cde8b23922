import ScriptLint.Proofs.Syntax.Formula.Lexing
import ScriptLint.Proofs.Syntax.Formula.Reading
import ScriptLint.Proofs.Syntax.Spelling.Statement

/-!
# Formulas parse

The text of a formula that has the brackets it needs parses without errors, into one statement that
holds the tree of the formula (`parse_formula`).
-/

namespace ScriptLint

open Formula (terminator)
open Lexeme (ahead significant)
open ScriptLint.Parser
open ScriptLint.Tree (bareOf)

namespace Grammar

variable {n : Nat} {self : Nonterminal → Parser n} {l : Lexeme} {ls rest : List Lexeme}
  {ts us : List Tree}

theorem accepts_semicolon : Accepts (semicolon : Parser n) (terminator :: rest)
    [.ofLexeme terminator] rest :=
  accepts_look fun c _ current => by
    have at_ : c.current = .semicolon := current
    rw [if_pos at_]
    exact accepts_bump

theorem accepts_statements_nil {inBlock : Bool} : Accepts (statements self inBlock) [] [] [] :=
  accepts_look fun c _ current => by
    rw [if_pos (.inl current)]
    exact accepts_skip

/-- A statement at the top of a program, and those behind it. -/
theorem accepts_statements (faithful : Faithfully self) (more : ahead ls ≠ .endOfInput)
    (moves : rest ≠ ls) (first : Accepts (statementBody self) ls ts rest)
    (again : Accepts (self (.statements false)) rest us []) :
    Accepts (statements self false) ls (ts ++ us) [] :=
  accepts_look fun c _ current => by
    have starts : ¬ (c.current = .endOfInput ∨ (false = true ∧ c.current = .rightBrace)) := by
      simpa [current] using more
    rw [if_neg starts]
    exact accepts_progress (fun _ _ => faithful_statementBody faithful) moves first again

/-- The kinds of tokens that formulas start with. -/
def starters : List SyntaxKind :=
  [.ident, .number, .leftParen, .minus, .plus, .bang, .tilde, .typeofKeyword, .voidKeyword,
   .deleteKeyword]

theorem accepts_statementBody (starts : ahead ls ∈ starters)
    (whole : Accepts (expression self) ls ts (terminator :: rest)) :
    Accepts (statementBody self) ls
      [.node .expressionStatement (ts ++ [.ofLexeme terminator])] rest := by
  have statement : Accepts (node .expressionStatement (andThen (expression self) semicolon)) ls
      [.node .expressionStatement (ts ++ [.ofLexeme terminator])] rest :=
    accepts_node (accepts_andThen whole accepts_semicolon)
  apply accepts_look
  intro c _ current
  rw [current]
  generalize ahead ls = found at starts
  simp only [starters, List.mem_cons, List.not_mem_nil, or_false] at starts
  rcases starts with rfl | rfl | rfl | rfl | rfl | rfl | rfl | rfl | rfl | rfl <;> exact statement

end Grammar

open Grammar

namespace Formula

theorem ahead_mem_starters (f : Formula) (rest : List Lexeme) :
    ahead (f.tree.lexemes ++ rest) ∈ starters := by
  induction f generalizing rest with
  | name | number => simp [starters]
  | group inner ih => simp [starters, leftParen]
  | prefixed operator operand ih =>
    have all : ∀ l ∈ prefixes, l.kind ∈ starters := by decide
    rw [lexemes_prefixed]
    exact all _ operator.2
  | binary left operator right ihLeft ihRight =>
    rw [lexemes_binary, List.append_assoc]
    exact ihLeft _

end Formula

/-- The statement of a formula is all of its text. -/
theorem gives_programBody {f : Formula} (ordered : f.Ordered) {ls : List Lexeme}
    (tokens : significant ls = f.tree.lexemes ++ [terminator]) :
    (programBody ls).Gives [.node .expressionStatement [f.tree, .ofLexeme terminator]] [] := by
  have none (n : Nat) : Accepts (Nonterminal.parser n (.statements false)) [] [] [] :=
    accepts_of_production fun _ => accepts_statements_nil
  have more : ahead (f.tree.lexemes ++ [terminator]) ≠ .endOfInput := by
    intro ended
    have starts := f.ahead_mem_starters [terminator]
    rw [ended] at starts
    exact absurd starts (by decide)
  have all (n : Nat) : Accepts (Nonterminal.parser n (.statements false))
      (f.tree.lexemes ++ [terminator]) [.node .expressionStatement [f.tree, .ofLexeme terminator]]
      [] := by
    apply accepts_of_production
    intro n
    have statement := accepts_statementBody (f.ahead_mem_starters [terminator])
      ((Formula.reads ordered).2.expression (.inr rfl) (n := n))
    exact accepts_statements (faithfully_all n) more (by simp) statement (none n)
  exact accepts_andThen (all _) accepts_trivia ⟨0, ls⟩ _ tokens

/-- The leaves of a formula that has the brackets it needs, with spaces between them and a semicolon
behind, parse without errors into one statement, which holds the tree of the formula. -/
theorem parse_formula (f : Formula) (ordered : f.Ordered) : (parse f.text).errors = [] ∧
    (parse f.text).tree.bare id =
      [.node .program [.node .expressionStatement [f.tree, .token .semicolon [';']]]] := by
  have lexed := f.lex_text
  have tokens : significant (lex f.text).lexemes = f.tree.lexemes ++ [terminator] := by
    rw [lexed]
    exact Formula.significant_spread f.free_leaves
  have gives := gives_programBody ordered tokens
  refine ⟨errors_parse.2 ⟨by rw [lexed], gives.errors⟩, ?_⟩
  show [Tree.node .program (bareOf id (programBody (lex f.text).lexemes).out)] = _
  rw [gives.out]
  rfl

namespace Formula

/-- `- a ?? ( b - c ) * 1.5 - typeof d`: every level of the tree needs the levels of the operators. -/
def mixed : Formula :=
  .binary
    (.prefixed ⟨⟨.minus, ['-']⟩, by decide⟩ (.name ⟨'a', [], rfl, rfl, by decide⟩))
    ⟨⟨.coalesce, ['?', '?']⟩, by decide⟩
    (.binary
      (.binary
        (.group (.binary (.name ⟨'b', [], rfl, rfl, by decide⟩) ⟨⟨.minus, ['-']⟩, by decide⟩
          (.name ⟨'c', [], rfl, rfl, by decide⟩)))
        ⟨⟨.star, ['*']⟩, by decide⟩
        (.number ['1', '.', '5'] (@Numeral.decimal '1' [] ['5'] [] rfl rfl rfl .none)))
      ⟨⟨.minus, ['-']⟩, by decide⟩
      (.prefixed ⟨⟨.typeofKeyword, ['t', 'y', 'p', 'e', 'o', 'f']⟩, by decide⟩
        (.name ⟨'d', [], rfl, rfl, by decide⟩)))

theorem parse_formula_mixed : mixed.Ordered ∧ (parse mixed.text).errors = [] ∧
    (parse mixed.text).tree.bare id =
      [.node .program [.node .expressionStatement [mixed.tree, .token .semicolon [';']]]] :=
  have ordered : mixed.Ordered := by decide
  ⟨ordered, parse_formula mixed ordered⟩

end Formula

end ScriptLint
