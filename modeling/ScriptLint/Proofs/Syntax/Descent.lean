import ScriptLint.Syntax.Parse
import ScriptLint.Proofs.Syntax.TreeBuilder

/-!
# Descent

The grammar as routines that share one cursor, one tree builder and one list of errors. A routine
reads tokens into the node that happens to be open, and opens and closes nodes as it goes; a node
whose kind shows late is opened at a mark taken early. A loop is a routine that calls itself.

A call that may lead back to its caller goes through `run`, which bounds how many such calls stand
inside one another. A routine that runs out of them has the result `none`, and one that asks
something impossible of the builder has the result `some (.error _)`. So reading a text ends, and the
builder never refuses, if the result is `some (.ok _)` for all bounds from some bound on.
-/

namespace ScriptLint

structure DescentState where
  cursor : Cursor
  builder : TreeBuilder
  errors : List SyntaxError

abbrev Descent := StateT DescentState (ExceptT BuilderFault Option)

/-- The routines that may be called from inside themselves. -/
inductive Routine where
  | statement
  | statements (inBlock : Bool)
  | declaration (inForHead : Bool)
  | declarators
  | expression
  | sequenceTail
  | assignment
  | binary (minimum : Nat)
  | binaryTail (mark minimum : Nat)
  | unary
  | suffixes (mark : Nat) (calls : Bool)
  | newTarget
  | arguments
  | argumentList
  | arrayItems
  | objectItems

namespace Descent

/-- The kind of the next significant lexeme. -/
def current : Descent SyntaxKind := do return (← get).cursor.current

def atLineBreak : Descent Bool := do return (← get).cursor.atLineBreak

def atWord (word : Text) : Descent Bool := do return (← get).cursor.atWord word

/-- How many lexemes are left, trivia included. -/
def left : Descent Nat := do return (← get).cursor.length

/-- Puts the trivia before the next significant lexeme into the open node. -/
def eatTrivia : Descent Unit :=
  modify fun s =>
    { s with
      cursor := s.cursor.pastTrivia
      builder := s.cursor.trivia.foldl (fun b l => b.token l.kind l.text) s.builder }

/-- Puts a lexeme into the open node as a token of the given kind. -/
def shift (kind : SyntaxKind) : Descent Unit :=
  modify fun s =>
    match s.cursor.rest with
    | [] => s
    | l :: rest =>
      { s with cursor := ⟨s.cursor.offset + l.size, rest⟩, builder := s.builder.token kind l.text }

def bumpAs (kind : SyntaxKind) : Descent Unit := do
  eatTrivia
  shift kind

def bump : Descent Unit := do
  bumpAs (← current)

/-- Notes an error at the next significant lexeme. -/
def note (problem : SyntaxKind → SyntaxProblem) : Descent Unit :=
  modify fun s =>
    { s with errors := s.errors ++ [⟨problem s.cursor.current, s.cursor.currentSpan⟩] }

/-- Has the builder make a step that it may refuse. -/
def build (step : TreeBuilder → Except BuilderFault TreeBuilder) : Descent Unit := do
  let s ← get
  match step s.builder with
  | .ok builder => set { s with builder }
  | .error fault => throw fault

def startNode (kind : SyntaxKind) : Descent Unit := do
  eatTrivia
  build fun b => .ok (b.start kind)

def checkpoint : Descent Nat := do
  eatTrivia
  return (← get).builder.mark

def startNodeAt (mark : Nat) (kind : SyntaxKind) : Descent Unit :=
  build fun b => b.startAt mark kind

def finishNode : Descent Unit := build TreeBuilder.close

def expect (kind : SyntaxKind) : Descent Unit := do
  if (← current) = kind then bump else note (.expected kind)

def leaf (kind : SyntaxKind) : Descent Unit := do
  startNode kind
  bump
  finishNode

/-- Notes an error and, unless the text is over, puts the next lexeme into an error node. -/
def reject (problem : SyntaxKind → SyntaxProblem) : Descent Unit := do
  note problem
  if (← current) = .endOfInput then pure () else leaf .error

def semicolon : Descent Unit := do
  let found ← current
  if found = .semicolon then bump
  else if found = .rightBrace ∨ found = .endOfInput then pure ()
  else if ← atLineBreak then pure ()
  else note .expectedSemicolon

/-- A name that may be a reserved word. -/
def anyName : Descent Unit := do
  startNode .identifier
  bumpAs .ident
  finishNode

def propertyName : Descent Unit := do
  if (← current).namesProperty then anyName else note .expectedPropertyName

def propertyKey : Descent Unit := do
  let found ← current
  if found = .string ∨ found = .number then leaf .literal
  else if found.namesProperty then anyName
  else note .expectedPropertyKey

/-- The name that a declarator binds. -/
def boundName : Descent Unit := do
  if (← current) = .ident then leaf .identifier else note .expectedIdentifier

/-- A comma, unless the list is closed. -/
def separator (close : SyntaxKind) : Descent Unit := do
  if (← current) = close then pure () else expect .comma

/-- An update behind its operand stands on the same line. -/
def update (mark : Nat) : Descent Unit := do
  if (← current).isUpdateOperator && ! (← atLineBreak) then
    startNodeAt mark .updateExpression
    bump
    finishNode

variable (self : Routine → Descent Unit)

/-- A node between two brackets, of which the first comes next. -/
def bracketed (kind : SyntaxKind) (inner : Routine) (close : SyntaxKind) : Descent Unit := do
  startNode kind
  bump
  self inner
  expect close
  finishNode

def arguments : Descent Unit := bracketed self .arguments .argumentList .rightParen

def suffixes (mark : Nat) (calls : Bool) : Descent Unit := do
  match ← current with
  | .leftParen =>
    if calls then
      startNodeAt mark .callExpression
      arguments self
      finishNode
      self (.suffixes mark calls)
  | .dot =>
    startNodeAt mark .memberExpression
    bump
    propertyName
    finishNode
    self (.suffixes mark calls)
  | .leftBracket =>
    startNodeAt mark .memberExpression
    bump
    self .expression
    expect .rightBracket
    finishNode
    self (.suffixes mark calls)
  | .template =>
    startNodeAt mark .taggedTemplateExpression
    leaf .templateLiteral
    finishNode
    self (.suffixes mark calls)
  | _ => pure ()

def newArguments : Descent Unit := do
  if (← current) = .leftParen then self .arguments

def newExpression : Descent Unit := do
  startNode .newExpression
  bump
  self .newTarget
  newArguments self
  finishNode

def propertyValue : Descent Unit := do
  if (← current) = .colon then
    bump
    self .assignment

def property : Descent Unit := do
  startNode .property
  propertyKey
  propertyValue self
  finishNode

def objectItems : Descent Unit := do
  let found ← current
  if found = .rightBrace ∨ found = .endOfInput then pure ()
  else
    let before ← left
    property self
    separator .rightBrace
    if (← left) = before then pure () else self .objectItems

def primary : Descent Unit := do
  match ← current with
  | .ident => leaf .identifier
  | .number | .string | .trueKeyword | .falseKeyword | .nullKeyword => leaf .literal
  | .thisKeyword => leaf .thisExpression
  | .template => leaf .templateLiteral
  | .leftParen => bracketed self .parenthesizedExpression .expression .rightParen
  | .leftBracket => bracketed self .arrayExpression .arrayItems .rightBracket
  | .leftBrace => bracketed self .objectExpression .objectItems .rightBrace
  | .semicolon | .rightParen | .rightBracket | .rightBrace | .comma | .endOfInput =>
    note .expectedExpression
  | _ => reject .expectedExpression

def callee : Descent Unit := do
  if (← current) = .newKeyword then newExpression self else primary self

def newTarget : Descent Unit := do
  let mark ← checkpoint
  callee self
  suffixes self mark false

def call : Descent Unit := do
  let mark ← checkpoint
  callee self
  suffixes self mark true

/-- An operator and the operand behind it. -/
def operand (kind : SyntaxKind) : Descent Unit := do
  startNode kind
  bump
  self .unary
  finishNode

def unary : Descent Unit := do
  let found ← current
  if found.isPrefixOperator then operand self .unaryExpression
  else if found.isUpdateOperator then operand self .updateExpression
  else
    let mark ← checkpoint
    call self
    update mark

/-- Opens one node after another at the same mark, so equal operators nest to the left. -/
def binaryTail (mark minimum : Nat) : Descent Unit := do
  let found ← current
  match found.bindingPower? with
  | some power =>
    if power < minimum then pure ()
    else
      startNodeAt mark found.binaryNode
      bump
      self (.binary (power + 1))
      finishNode
      self (.binaryTail mark minimum)
  | none => pure ()

def binary (minimum : Nat) : Descent Unit := do
  let mark ← checkpoint
  unary self
  binaryTail self mark minimum

def conditional : Descent Unit := do
  let mark ← checkpoint
  binary self 0
  if (← current) = .question then
    startNodeAt mark .conditionalExpression
    bump
    self .assignment
    expect .colon
    self .assignment
    finishNode

def assignment : Descent Unit := do
  let mark ← checkpoint
  conditional self
  if (← current).isAssignmentOperator then
    startNodeAt mark .assignmentExpression
    bump
    self .assignment
    finishNode

def arrayItems : Descent Unit := do
  let found ← current
  if found = .rightBracket ∨ found = .endOfInput then pure ()
  else if found = .comma then
    bump
    self .arrayItems
  else
    let before ← left
    assignment self
    separator .rightBracket
    if (← left) = before then pure () else self .arrayItems

def argumentList : Descent Unit := do
  let found ← current
  if found = .rightParen ∨ found = .endOfInput then pure ()
  else
    let before ← left
    assignment self
    if (← current) = .comma then
      bump
      if (← left) = before then pure () else self .argumentList

def sequenceTail : Descent Unit := do
  if (← current) = .comma then
    bump
    self .assignment
    self .sequenceTail

def expression : Descent Unit := do
  let mark ← checkpoint
  assignment self
  if (← current) = .comma then
    startNodeAt mark .sequenceExpression
    sequenceTail self
    finishNode

def initializer : Descent Unit := do
  if (← current) = .assign then
    bump
    self .assignment

def declarator : Descent Unit := do
  startNode .variableDeclarator
  boundName
  initializer self
  finishNode

def declarators : Descent Unit := do
  declarator self
  if (← current) = .comma then
    bump
    self .declarators

/-- In the head of a loop the semicolon is left alone. -/
def declaration (inForHead : Bool) : Descent Unit := do
  startNode .variableDeclaration
  bump
  self .declarators
  if inForHead then finishNode
  else
    semicolon
    finishNode

def expressionStatement : Descent Unit := do
  startNode .expressionStatement
  expression self
  semicolon
  finishNode

def block : Descent Unit := bracketed self .blockStatement (.statements true) .rightBrace

def elseBranch : Descent Unit := do
  if (← current) = .elseKeyword then
    bump
    self .statement

def ifStatement : Descent Unit := do
  startNode .ifStatement
  bump
  expect .leftParen
  self .expression
  expect .rightParen
  self .statement
  elseBranch self
  finishNode

def returnValue : Descent Unit := do
  if ! (← atLineBreak) && (← current).startsExpression then self .expression

def returnStatement : Descent Unit := do
  startNode .returnStatement
  bump
  returnValue self
  semicolon
  finishNode

def forStart : Descent Unit := do
  let found ← current
  if found.startsDeclaration then self (.declaration true)
  else if found = .semicolon then pure ()
  else self .assignment

def forTest : Descent Unit := do
  if (← current) = .semicolon then pure () else self .expression

def forStep : Descent Unit := do
  if (← current) = .rightParen then pure () else self .expression

/-- The rest of the head of a loop, which shows what kind of loop it is. -/
def forHead : Descent SyntaxKind := do
  if ← atWord ['o', 'f'] then
    bumpAs .ofKeyword
    self .assignment
    return .forOfStatement
  else if (← current) = .inKeyword then
    bump
    self .expression
    return .forInStatement
  else
    expect .semicolon
    forTest self
    expect .semicolon
    forStep self
    return .forStatement

def forStatement : Descent Unit := do
  let mark ← checkpoint
  bump
  expect .leftParen
  forStart self
  let kind ← forHead self
  expect .rightParen
  startNodeAt mark kind
  self .statement
  finishNode

def statementBody : Descent Unit := do
  match ← current with
  | .leftBrace => block self
  | .varKeyword | .letKeyword | .constKeyword => declaration self false
  | .ifKeyword => ifStatement self
  | .forKeyword => forStatement self
  | .returnKeyword => returnStatement self
  | .semicolon => leaf .emptyStatement
  | .endOfInput => pure ()
  | found => if found.startsExpression then expressionStatement self else reject .unexpected

def statement : Descent Unit := do
  let before ← left
  statementBody self
  if (← left) = before then reject .unexpected

def statements (inBlock : Bool) : Descent Unit := do
  let found ← current
  if found = .endOfInput ∨ (inBlock ∧ found = .rightBrace) then pure ()
  else
    statement self
    self (.statements inBlock)

/-- What a routine does, when the routines that it calls are given. -/
def step : Routine → Descent Unit
  | .statement => statement self
  | .statements inBlock => statements self inBlock
  | .declaration inForHead => declaration self inForHead
  | .declarators => declarators self
  | .expression => expression self
  | .sequenceTail => sequenceTail self
  | .assignment => assignment self
  | .binary minimum => binary self minimum
  | .binaryTail mark minimum => binaryTail self mark minimum
  | .unary => unary self
  | .suffixes mark calls => suffixes self mark calls
  | .newTarget => newTarget self
  | .arguments => arguments self
  | .argumentList => argumentList self
  | .arrayItems => arrayItems self
  | .objectItems => objectItems self

/-- A routine with at most `depth` calls inside one another. -/
def run : (depth : Nat) → Routine → Descent Unit
  | 0, _ => fun _ => none
  | depth + 1, r => step (run depth) r

/-- A whole program; the trivia in front of it stands inside. -/
def program (depth : Nat) : Descent Unit := do
  build fun b => .ok (b.start .program)
  run depth (.statements false)
  eatTrivia
  finishNode

end Descent

/-- Reads a text as a program by descent, with at most `depth` calls inside one another. -/
def descend (depth : Nat) (text : Text) : Option (Except BuilderFault Parse) :=
  let lexed := lex text
  match Descent.program depth ⟨⟨0, lexed.lexemes⟩, .empty, lexed.errors⟩ with
  | none => none
  | some (.error fault) => some (.error fault)
  | some (.ok ((), s)) =>
    some (s.builder.finish.map fun tree => ⟨tree, SyntaxError.sorted s.errors⟩)

end ScriptLint
