import ScriptLint.Syntax.Grammar.Statement

/-!
# Parsing

Every text has a tree, whose root is a program. The nonterminals are tied together by recursion on
a bound on the number of lexemes left.
-/

namespace ScriptLint

namespace Nonterminal

/-- The parser of a nonterminal for inputs of fewer than `n` lexemes. -/
def parser : (n : Nat) → Nonterminal → Parser n
  | 0, _ => fun _ h => absurd h (Nat.not_lt_zero _)
  | n + 1, g => Grammar.production (parser n) g

end Nonterminal

/-- The statements of a program and the trivia behind the last one. -/
def programBody (lexemes : List Lexeme) : Parsed (lexemes.length + 1) :=
  Parser.andThen (Nonterminal.parser _ (.statements false)) .trivia ⟨0, lexemes⟩
    (Nat.lt_succ_self _)

/-- The tree of a text and the errors found on the way, sorted by their place. -/
def parse (text : Text) : Parse :=
  let lexed := lex text
  let body := programBody lexed.lexemes
  ⟨.node .program body.out, SyntaxError.sorted (lexed.errors ++ body.errors)⟩

end ScriptLint
