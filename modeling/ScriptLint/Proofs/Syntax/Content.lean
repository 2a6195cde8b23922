import Mathlib.Computability.RegularExpressions
import Mathlib.Order.CompletePartialOrder
import ScriptLint.Syntax.Grammar.Operator

/-!
# What nodes are made of

The grammar as regular expressions over kinds: `SyntaxKind.content` says which kinds the children of
a node may have, trivia apart. Expressions come in levels, from what needs no operator to a sequence;
each level is the list of the kinds of its nodes and includes the levels before it.
-/

namespace ScriptLint

/-- What may stand in a node, by kinds of tokens and nodes. -/
abbrev Content := RegularExpression SyntaxKind

namespace Content

def oneOf : List SyntaxKind → Content
  | [] => 0
  | k :: ks => .char k + oneOf ks

def only (k : SyntaxKind) : Content := oneOf [k]

def maybe (e : Content) : Content := 1 + e

def many (e : Content) : Content := .star e

def inTurn : List Content → Content
  | [] => 1
  | [e] => e
  | e :: f :: es => e * inTurn (f :: es)

/-- One or more items with commas between them. -/
def separated (item : Content) : Content := inTurn [item, many (inTurn [only .comma, item])]

/-- Any number of items with commas between them; one more comma may come last. -/
def listOf (item : Content) : Content := inTurn [many (inTurn [item, only .comma]), maybe item]

def primaries : List SyntaxKind :=
  [.identifier, .literal, .templateLiteral, .thisExpression, .parenthesizedExpression,
   .arrayExpression, .objectExpression]

/-- What suffixes apply to; behind `new` no calls are among it. -/
def callees (calls : Bool) : List SyntaxKind :=
  primaries ++ [.newExpression, .memberExpression, .taggedTemplateExpression] ++
    if calls then [.callExpression] else []

def unaries : List SyntaxKind := callees true ++ [.unaryExpression, .updateExpression]

def binaries : List SyntaxKind := unaries ++ [.binaryExpression, .logicalExpression]

def conditionals : List SyntaxKind := binaries ++ [.conditionalExpression]

def assignments : List SyntaxKind := conditionals ++ [.assignmentExpression]

def expressions : List SyntaxKind := assignments ++ [.sequenceExpression]

def statements : List SyntaxKind :=
  [.variableDeclaration, .emptyStatement, .blockStatement, .ifStatement, .returnStatement,
   .forStatement, .forInStatement, .forOfStatement, .expressionStatement]

def declares : List SyntaxKind := [.varKeyword, .letKeyword, .constKeyword]

def literals : List SyntaxKind :=
  [.number, .string, .trueKeyword, .falseKeyword, .nullKeyword]

def prefixes : List SyntaxKind :=
  [.minus, .plus, .bang, .tilde, .typeofKeyword, .voidKeyword, .deleteKeyword]

def updates : List SyntaxKind := [.increment, .decrement]

def assigns : List SyntaxKind :=
  [.assign, .plusAssign, .minusAssign, .starAssign, .slashAssign]

def connectives : List SyntaxKind := [.coalesce, .or, .and]

def operators : List SyntaxKind :=
  [.looseEqual, .looseUnequal, .strictEqual, .strictUnequal, .less, .greater, .lessEqual,
   .greaterEqual, .plus, .minus, .star, .slash, .percent]

/-- What the head of a loop starts with. -/
def loopStart : Content := oneOf (.variableDeclaration :: assignments)

end Content

open Content
open scoped Computability

/-- What a node of a kind may be made of, trivia apart. -/
def SyntaxKind.content : SyntaxKind → Content
  | .program => many (oneOf statements)
  | .variableDeclaration =>
    inTurn [oneOf declares, separated (only .variableDeclarator), maybe (only .semicolon)]
  | .variableDeclarator => inTurn [only .identifier, maybe (inTurn [only .assign, oneOf assignments])]
  | .expressionStatement => inTurn [oneOf expressions, maybe (only .semicolon)]
  | .emptyStatement => only .semicolon
  | .blockStatement => inTurn [only .leftBrace, many (oneOf statements), only .rightBrace]
  | .ifStatement =>
    inTurn [only .ifKeyword, only .leftParen, oneOf expressions, only .rightParen, oneOf statements,
      maybe (inTurn [only .elseKeyword, oneOf statements])]
  | .returnStatement =>
    inTurn [only .returnKeyword, maybe (oneOf expressions), maybe (only .semicolon)]
  | .forStatement =>
    inTurn [only .forKeyword, only .leftParen, maybe loopStart, only .semicolon, maybe (oneOf expressions),
      only .semicolon, maybe (oneOf expressions), only .rightParen, oneOf statements]
  | .forInStatement =>
    inTurn [only .forKeyword, only .leftParen, loopStart, only .inKeyword, oneOf expressions,
      only .rightParen, oneOf statements]
  | .forOfStatement =>
    inTurn [only .forKeyword, only .leftParen, loopStart, only .ofKeyword, oneOf assignments,
      only .rightParen, oneOf statements]
  | .identifier => only .ident
  | .literal => oneOf literals
  | .templateLiteral => only .template
  | .thisExpression => only .thisKeyword
  | .parenthesizedExpression => inTurn [only .leftParen, oneOf expressions, only .rightParen]
  | .arrayExpression =>
    inTurn [only .leftBracket, listOf (maybe (oneOf assignments)), only .rightBracket]
  | .objectExpression => inTurn [only .leftBrace, listOf (only .property), only .rightBrace]
  | .property =>
    inTurn [oneOf [.literal, .identifier], maybe (inTurn [only .colon, oneOf assignments])]
  | .memberExpression =>
    inTurn [oneOf (callees true), inTurn [only .dot, only .identifier] +
      inTurn [only .leftBracket, oneOf expressions, only .rightBracket]]
  | .taggedTemplateExpression => inTurn [oneOf (callees true), only .templateLiteral]
  | .callExpression => inTurn [oneOf (callees true), only .arguments]
  | .newExpression =>
    inTurn [only .newKeyword, oneOf (callees false), maybe (only .arguments)]
  | .arguments => inTurn [only .leftParen, listOf (oneOf assignments), only .rightParen]
  | .unaryExpression => inTurn [oneOf prefixes, oneOf unaries]
  | .updateExpression =>
    inTurn [oneOf updates, oneOf unaries] + inTurn [oneOf (callees true), oneOf updates]
  | .binaryExpression => inTurn [oneOf binaries, oneOf operators, oneOf binaries]
  | .logicalExpression => inTurn [oneOf binaries, oneOf connectives, oneOf binaries]
  | .conditionalExpression =>
    inTurn [oneOf binaries, only .question, oneOf assignments, only .colon, oneOf assignments]
  | .assignmentExpression => inTurn [oneOf conditionals, oneOf assigns, oneOf assignments]
  | .sequenceExpression =>
    inTurn [oneOf assignments, only .comma, oneOf assignments,
      many (inTurn [only .comma, oneOf assignments])]
  | _ => 0

namespace Content

variable {k : SyntaxKind} {ks more : List SyntaxKind} {e f : Content} {w : List SyntaxKind}

theorem mem_oneOf : w ∈ (oneOf ks).matches' ↔ ∃ k ∈ ks, w = [k] := by
  induction ks with
  | nil => simp [oneOf]
  | cons k ks ih =>
    simp only [oneOf, RegularExpression.matches', Language.mem_add, ih, List.exists_mem_cons_iff]
    exact Iff.rfl

theorem mem_only : w ∈ (only k).matches' ↔ w = [k] := by simp [only, mem_oneOf]

theorem oneOf_le (among : ks ⊆ more) : (oneOf ks).matches' ≤ (oneOf more).matches' := by
  intro w mem
  obtain ⟨k, here, rfl⟩ := mem_oneOf.1 mem
  exact mem_oneOf.2 ⟨k, among here, rfl⟩

theorem nil_notMem_oneOf : [] ∉ (oneOf ks).matches' := by
  intro mem
  obtain ⟨k, -, eq⟩ := mem_oneOf.1 mem
  cases eq

theorem nil_mem_maybe : [] ∈ (maybe e).matches' := .inl rfl

theorem le_maybe : e.matches' ≤ (maybe e).matches' := fun _ => .inr

theorem nil_mem_many : [] ∈ (many e).matches' := Language.nil_mem_kstar _

theorem mul_many_le : (e * many e).matches' ≤ (many e).matches' := mul_kstar_le_kstar

/-- A list that goes on, or does not, is a list. -/
theorem maybe_mul_many : (maybe (e * (f * many (inTurn [e, f])))).matches' =
    (many (inTurn [e, f])).matches' := by
  show 1 + e.matches' * (f.matches' * (e.matches' * f.matches')∗) = (e.matches' * f.matches')∗
  rw [← mul_assoc, Language.one_add_self_mul_kstar_eq_kstar]

/-- What comes behind three parts is the fourth. -/
theorem inTurn_mul {d g : Content} : (inTurn [d, e, f] * g).matches' = (d * (e * (f * g))).matches' := by
  show d.matches' * (e.matches' * f.matches') * g.matches' = _
  rw [mul_assoc, mul_assoc]
  rfl

theorem nil_mem_listOf : [] ∈ (listOf e).matches' :=
  Language.append_mem_mul nil_mem_many nil_mem_maybe

theorem le_listOf : e.matches' ≤ (listOf e).matches' := by
  intro w mem
  exact Language.append_mem_mul nil_mem_many (le_maybe mem)

/-- An item and a comma may be put in front of a list. -/
theorem mul_listOf_le : (e * only .comma * listOf e).matches' ≤ (listOf e).matches' := by
  show e.matches' * (only .comma).matches' * ((inTurn [e, only .comma]).matches'∗ * _) ≤ _
  rw [← mul_assoc]
  exact mul_le_mul' mul_kstar_le_kstar le_rfl

theorem mul_maybe_listOf_le :
    (e * maybe (only .comma * listOf e)).matches' ≤ (listOf e).matches' := by
  show e.matches' * (1 + (only .comma).matches' * (listOf e).matches') ≤ _
  rw [mul_add, mul_one, ← mul_assoc]
  exact add_le le_listOf mul_listOf_le

/-- Where items may be left out, a list may start with a comma. -/
theorem comma_mul_listOf_le :
    (only .comma * listOf (maybe e)).matches' ≤ (listOf (maybe e)).matches' := by
  refine le_trans ?_ mul_listOf_le
  show (only .comma).matches' * _ ≤ (maybe e).matches' * (only .comma).matches' * _
  refine mul_le_mul' ?_ le_rfl
  intro w mem
  exact Language.append_mem_mul nil_mem_maybe mem

end Content

end ScriptLint
