import ScriptLint.Text.Basic
import ScriptLint.Syntax.Kind

/-!
# Syntax errors

What can be wrong with a text, and where. Neither reading tokens nor parsing ever fails; they note
errors and go on.
-/

namespace ScriptLint

inductive SyntaxProblem where
  | unterminatedComment
  | unterminatedString
  | unterminatedTemplate
  | unexpectedCharacter (c : Char)
  | unexpected (found : SyntaxKind)
  | expected (wanted found : SyntaxKind)
  | expectedSemicolon (found : SyntaxKind)
  | expectedIdentifier (found : SyntaxKind)
  | expectedExpression (found : SyntaxKind)
  | expectedPropertyName (found : SyntaxKind)
  | expectedPropertyKey (found : SyntaxKind)
  deriving DecidableEq, Repr

namespace SyntaxProblem

def message : SyntaxProblem → String
  | .unterminatedComment => "Unterminated block comment"
  | .unterminatedString => "Unterminated string literal"
  | .unterminatedTemplate => "Unterminated template literal"
  | .unexpectedCharacter c => "Unexpected character '" ++ c.toString ++ "'"
  | .unexpected found => "Unexpected " ++ found.name
  | .expected wanted found => "Expected " ++ wanted.name ++ ", found " ++ found.name
  | .expectedSemicolon found => "Expected ';', found " ++ found.name
  | .expectedIdentifier found => "Expected an identifier, found " ++ found.name
  | .expectedExpression found => "Expected an expression, found " ++ found.name
  | .expectedPropertyName found => "Expected a property name, found " ++ found.name
  | .expectedPropertyKey found => "Expected a property key, found " ++ found.name

end SyntaxProblem

structure SyntaxError where
  problem : SyntaxProblem
  span : Span
  deriving DecidableEq, Repr

namespace SyntaxError

def message (e : SyntaxError) : String := e.problem.message

/-- The message with its place. -/
def render (e : SyntaxError) : String := e.message ++ " at " ++ e.span.render

/-- Errors by the order of their spans; those of one span keep the order in which they were noted. -/
def sorted (errors : List SyntaxError) : List SyntaxError :=
  errors.mergeSort fun a b => a.span.le b.span

end SyntaxError

end ScriptLint
