import ScriptLint.Syntax.Cursor
import ScriptLint.Syntax.Grammar.Operator

/-!
# Expressions

The productions of the expression grammar. Each takes the parsers of all nonterminals for shorter
inputs, so it may call them only behind a token; among themselves the productions form a chain from
the loosest to the tightest form: expression, assignment, conditional, binary, unary, call.

An operand is read before it is known whether an operator follows, and is then put into the node of
that operator; `binaryTail` and `suffixes` take the operand read so far, so chains nest to the left.
-/

namespace ScriptLint

/-- What a parser can be asked to read. The tails are the rest of a list or chain behind its start. -/
inductive Nonterminal where
  | statement
  | statements (inBlock : Bool)
  | declaration (inForHead : Bool)
  | declarators
  | expression
  | sequenceTail
  | assignment
  | binary (minimum : Nat)
  | binaryTail (left : List Tree) (minimum : Nat)
  | unary
  | suffixes (callee : List Tree) (calls : Bool)
  | newTarget
  | arguments
  | argumentList
  | arrayItems
  | objectItems

namespace Grammar

open ScriptLint.Parser

variable {n : Nat} (self : Nonterminal → Parser n)

/-- A node around a single token. -/
def leaf (kind : SyntaxKind) : Parser n := node kind bump

def argumentsBody : Parser n := andThen (self .argumentList) (expect .rightParen)

def arguments : Parser (n + 1) := node .arguments (bumpThen (argumentsBody self))

/-- The name behind a point. -/
def propertyName : Parser n :=
  look fun c =>
    if c.current.namesProperty then node .identifier (bumpAs .ident) else fail .expectedPropertyName

/-- Member accesses, calls and tagged templates behind a callee. -/
def suffixes (callee : List Tree) (calls : Bool) : Parser (n + 1) :=
  look fun c =>
    match c.current with
    | .dot =>
      take fun trivia dot => capture propertyName fun name =>
        self (.suffixes [.node .memberExpression (callee ++ trivia ++ .ofLexeme dot :: name)] calls)
    | .leftBracket =>
      take fun trivia bracket =>
        capture (andThen (self .expression) (expect .rightBracket)) fun index =>
          self (.suffixes
            [.node .memberExpression (callee ++ trivia ++ .ofLexeme bracket :: index)] calls)
    | .template =>
      take fun trivia template =>
        self (.suffixes
          [.node .taggedTemplateExpression
            (callee ++ trivia ++ [.node .templateLiteral [.ofLexeme template]])] calls)
    | .leftParen =>
      if calls then
        take fun trivia paren => capture (argumentsBody self) fun inner =>
          self (.suffixes
            [.node .callExpression
              (callee ++ trivia ++ [.node .arguments (.ofLexeme paren :: inner)])] calls)
      else emit callee
    | _ => emit callee

/-- The first argument list behind `new` belongs to it. -/
def newExpression : Parser (n + 1) :=
  node .newExpression (bumpThen (andThen (self .newTarget)
    (look fun c => if c.current = .leftParen then self .arguments else skip)))

/-- A key, and a value unless the key stands for itself. -/
def property : Parser (n + 1) :=
  node .property (andThen
    (look fun c =>
      if c.current = .string ∨ c.current = .number then leaf .literal
      else if c.current.namesProperty then node .identifier (bumpAs .ident)
      else fail .expectedPropertyKey)
    (look fun c => if c.current = .colon then bumpThen (self .assignment) else skip))

/-- A comma, unless the list is closed. -/
def separator (close : SyntaxKind) : Parser n :=
  look fun c => if c.current = close then skip else expect .comma

def objectItems : Parser (n + 1) :=
  look fun c =>
    match c.current with
    | .rightBrace | .endOfInput => skip
    | _ => progress (andThen (property self) (separator .rightBrace)) (self .objectItems) skip

def primary : Parser (n + 1) :=
  look fun c =>
    match c.current with
    | .ident => leaf .identifier
    | .number | .string | .trueKeyword | .falseKeyword | .nullKeyword => leaf .literal
    | .thisKeyword => leaf .thisExpression
    | .template => leaf .templateLiteral
    | .leftParen =>
      node .parenthesizedExpression
        (bumpThen (andThen (self .expression) (expect .rightParen)))
    | .leftBracket =>
      node .arrayExpression (bumpThen (andThen (self .arrayItems) (expect .rightBracket)))
    | .leftBrace =>
      node .objectExpression (bumpThen (andThen (self .objectItems) (expect .rightBrace)))
    | found =>
      if found.endsExpression then fail .expectedExpression else reject .expectedExpression

/-- What `new` and a call apply to, without the suffixes. -/
def callee : Parser (n + 1) :=
  look fun c => if c.current = .newKeyword then newExpression self else primary self

def newTarget : Parser (n + 1) :=
  marked (callee self) fun target => suffixes self target false

def call : Parser (n + 1) :=
  marked (callee self) fun target => suffixes self target true

/-- An operator in front of its operand, or an update behind one on the same line. -/
def unary : Parser (n + 1) :=
  look fun c =>
    if c.current.isPrefixOperator then node .unaryExpression (bumpThen (self .unary))
    else if c.current.isUpdateOperator then node .updateExpression (bumpThen (self .unary))
    else
      marked (call self) fun operand =>
        look fun c =>
          if c.current.isUpdateOperator && ! c.atLineBreak then wrap .updateExpression operand bump
          else emit operand

/-- Operators that bind at least as tightly as `minimum`, with their right operands. -/
def binaryTail (left : List Tree) (minimum : Nat) : Parser (n + 1) :=
  look fun c =>
    match c.current.bindingPower? with
    | some power =>
      if power < minimum then emit left
      else
        take fun trivia operator => capture (self (.binary (power + 1))) fun right =>
          self (.binaryTail
            [.node operator.kind.binaryNode (left ++ trivia ++ .ofLexeme operator :: right)] minimum)
    | none => emit left

def binary (minimum : Nat) : Parser (n + 1) :=
  marked (unary self) fun left => binaryTail self left minimum

def conditional : Parser (n + 1) :=
  marked (binary self 0) fun condition =>
    look fun c =>
      if c.current = .question then
        wrap .conditionalExpression condition
          (bumpThen (andThen (self .assignment) (andThen (expect .colon) (self .assignment))))
      else emit condition

/-- Assignments nest to the right. -/
def assignment : Parser (n + 1) :=
  marked (conditional self) fun target =>
    look fun c =>
      if c.current.isAssignmentOperator then
        wrap .assignmentExpression target (bumpThen (self .assignment))
      else emit target

/-- Items may be left out between commas. -/
def arrayItems : Parser (n + 1) :=
  look fun c =>
    match c.current with
    | .rightBracket | .endOfInput => skip
    | .comma => bumpThen (self .arrayItems)
    | _ => progress (andThen (assignment self) (separator .rightBracket)) (self .arrayItems) skip

def argumentList : Parser (n + 1) :=
  look fun c =>
    match c.current with
    | .rightParen | .endOfInput => skip
    | _ =>
      andThen (assignment self)
        (look fun c => if c.current = .comma then bumpThen (self .argumentList) else skip)

def sequenceTail : Parser (n + 1) :=
  look fun c =>
    if c.current = .comma then bumpThen (andThen (self .assignment) (self .sequenceTail)) else skip

def expression : Parser (n + 1) :=
  marked (assignment self) fun first =>
    look fun c =>
      if c.current = .comma then wrap .sequenceExpression first (sequenceTail self) else emit first

end Grammar

end ScriptLint
