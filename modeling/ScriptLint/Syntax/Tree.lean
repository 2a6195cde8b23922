import ScriptLint.Syntax.Lexeme

/-!
# Syntax trees

A tree keeps every lexeme of its text, trivia included, so its leaves in order spell the text. A
node without leaves is possible: it stands where something was expected and not found.
-/

namespace ScriptLint

inductive Tree where
  | token (kind : SyntaxKind) (text : Text)
  | node (kind : SyntaxKind) (children : List Tree)
  deriving Inhabited

namespace Tree

def kind : Tree → SyntaxKind
  | .token kind _ => kind
  | .node kind _ => kind

def ofLexeme (l : Lexeme) : Tree := .token l.kind l.text

mutual
/-- The tokens of the tree, from left to right. -/
def lexemes : Tree → List Lexeme
  | .token kind text => [⟨kind, text⟩]
  | .node _ children => lexemesOf children

def lexemesOf : List Tree → List Lexeme
  | [] => []
  | t :: ts => lexemes t ++ lexemesOf ts
end

mutual
def size : Tree → Nat
  | .token _ text => Text.size text
  | .node _ children => sizeOf children

def sizeOf : List Tree → Nat
  | [] => 0
  | t :: ts => size t + sizeOf ts
end

def text (t : Tree) : Text := Lexeme.join t.lexemes

end Tree

/-- What parsing gives: a tree in any case, and the errors sorted by their place. -/
structure Parse where
  tree : Tree
  errors : List SyntaxError

end ScriptLint
