import ScriptLint.Syntax.Kind

/-!
# Operators

How tightly each binary operator binds, and which operators stand in front of an operand or assign.
-/

namespace ScriptLint.SyntaxKind

/-- The binding power of a binary operator; a larger one binds more tightly. -/
def bindingPower? : SyntaxKind → Option Nat
  | .coalesce => some 1
  | .or => some 2
  | .and => some 3
  | .looseEqual | .looseUnequal | .strictEqual | .strictUnequal => some 6
  | .less | .greater | .lessEqual | .greaterEqual => some 7
  | .plus | .minus => some 9
  | .star | .slash | .percent => some 10
  | _ => none

def isLogicalOperator : SyntaxKind → Bool
  | .coalesce | .or | .and => true
  | _ => false

/-- The kind of node that a binary operator makes. -/
def binaryNode (operator : SyntaxKind) : SyntaxKind :=
  if operator.isLogicalOperator then .logicalExpression else .binaryExpression

def isAssignmentOperator : SyntaxKind → Bool
  | .assign | .plusAssign | .minusAssign | .starAssign | .slashAssign => true
  | _ => false

def isPrefixOperator : SyntaxKind → Bool
  | .minus | .plus | .bang | .tilde | .typeofKeyword | .voidKeyword | .deleteKeyword => true
  | _ => false

def isUpdateOperator : SyntaxKind → Bool
  | .increment | .decrement => true
  | _ => false

/-- Kinds of tokens that an expression can start with. -/
def startsExpression : SyntaxKind → Bool
  | .ident | .number | .string | .template | .trueKeyword | .falseKeyword | .nullKeyword
  | .thisKeyword | .newKeyword | .typeofKeyword | .voidKeyword | .deleteKeyword | .leftParen
  | .leftBracket | .leftBrace | .plus | .minus | .bang | .tilde | .increment | .decrement => true
  | _ => false

def startsDeclaration : SyntaxKind → Bool
  | .varKeyword | .letKeyword | .constKeyword => true
  | _ => false

/-- Kinds that end a missing expression and are left to what follows it. -/
def endsExpression : SyntaxKind → Bool
  | .semicolon | .rightParen | .rightBracket | .rightBrace | .comma | .endOfInput => true
  | _ => false

/-- Names of properties may be reserved words. -/
def namesProperty (k : SyntaxKind) : Bool := k == .ident || k.isKeyword

end ScriptLint.SyntaxKind
