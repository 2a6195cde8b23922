import ScriptLint.Syntax.Grammar.Expression

/-!
# Statements

The productions of the statement grammar, and `production`, which picks the one of a nonterminal.
A statement ends in a semicolon, or before a closing brace, at the end of the text, or where a line
ends (`semicolon`).
-/

namespace ScriptLint.Grammar

open ScriptLint.Parser

variable {n : Nat} (self : Nonterminal → Parser n)

def semicolon : Parser n :=
  look fun c =>
    if c.current = .semicolon then bump
    else if c.current = .rightBrace ∨ c.current = .endOfInput ∨ c.atLineBreak then skip
    else fail .expectedSemicolon

def declarator : Parser (n + 1) :=
  node .variableDeclarator (andThen
    (look fun c => if c.current = .ident then leaf .identifier else fail .expectedIdentifier)
    (look fun c => if c.current = .assign then bumpThen (self .assignment) else skip))

def declarators : Parser (n + 1) :=
  andThen (declarator self)
    (look fun c => if c.current = .comma then bumpThen (self .declarators) else skip)

/-- In the head of a loop the semicolon belongs to the loop. -/
def declaration (inForHead : Bool) : Parser (n + 1) :=
  node .variableDeclaration
    (bumpThen (andThen (self .declarators) (if inForHead then skip else semicolon)))

def block : Parser (n + 1) :=
  node .blockStatement (bumpThen (andThen (self (.statements true)) (expect .rightBrace)))

def ifStatement : Parser (n + 1) :=
  node .ifStatement (bumpThen
    (andThen (expect .leftParen) (andThen (self .expression) (andThen (expect .rightParen)
      (andThen (self .statement)
        (look fun c => if c.current = .elseKeyword then andThen bump (self .statement) else skip))))))

/-- The value of a `return` starts on the same line. -/
def returnStatement : Parser (n + 1) :=
  node .returnStatement (bumpThen (andThen
    (look fun c =>
      if ! c.atLineBreak && c.current.startsExpression then self .expression else skip)
    semicolon))

/-- The start of the head of a loop, up to what tells the three forms apart. -/
def forStart : Parser n :=
  andThen (expect .leftParen) (look fun c =>
    if c.current.startsDeclaration then self (.declaration true)
    else if c.current = .semicolon then skip
    else self .assignment)

/-- The end of the head of a loop, and its body. -/
def forEnd : Parser n := andThen (expect .rightParen) (self .statement)

/-- An expression, unless the part of the head that it would fill is empty. -/
def forPart (close : SyntaxKind) : Parser n :=
  andThen (look fun c => if c.current = close then skip else self .expression) (expect close)

def forStatement : Parser (n + 1) :=
  take fun trivia keyword => andThen (emit trivia) <| capture (forStart self) fun start =>
    let head := .ofLexeme keyword :: start
    look fun c =>
      if c.atWord ['o', 'f'] then
        wrap .forOfStatement head
          (andThen (bumpAs .ofKeyword) (andThen (self .assignment) (forEnd self)))
      else if c.current = .inKeyword then
        wrap .forInStatement head (andThen bump (andThen (self .expression) (forEnd self)))
      else
        wrap .forStatement head (andThen (expect .semicolon)
          (andThen (forPart self .semicolon)
            (andThen (look fun c => if c.current = .rightParen then skip else self .expression)
              (forEnd self))))

def statementBody : Parser (n + 1) :=
  look fun c =>
    match c.current with
    | .varKeyword | .letKeyword | .constKeyword => declaration self false
    | .semicolon => leaf .emptyStatement
    | .leftBrace => block self
    | .ifKeyword => ifStatement self
    | .returnKeyword => returnStatement self
    | .forKeyword => forStatement self
    | .endOfInput => skip
    | found =>
      if found.startsExpression then
        node .expressionStatement (andThen (expression self) semicolon)
      else reject .unexpected

/-- A statement; what starts none is rejected. -/
def statement : Parser (n + 1) :=
  fun c h =>
    let a := statementBody self c h
    if a.next.length = c.length then
      let b := reject .unexpected a.next a.bound
      ⟨a.out ++ b.out, a.errors ++ b.errors, b.next, b.bound⟩
    else a

/-- Statements up to the end of the text, or in a block up to its closing brace. -/
def statements (inBlock : Bool) : Parser (n + 1) :=
  look fun c =>
    if c.current = .endOfInput ∨ (inBlock ∧ c.current = .rightBrace) then skip
    else
      progress (statementBody self) (self (.statements inBlock))
        (rejectThen .unexpected (self (.statements inBlock)))

def production : Nonterminal → Parser (n + 1)
  | .statement => statement self
  | .statements inBlock => statements self inBlock
  | .declaration inForHead => declaration self inForHead
  | .declarators => declarators self
  | .expression => expression self
  | .sequenceTail => sequenceTail self
  | .assignment => assignment self
  | .binary minimum => binary self minimum
  | .binaryTail left minimum => binaryTail self left minimum
  | .unary => unary self
  | .suffixes callee calls => suffixes self callee calls
  | .newTarget => newTarget self
  | .arguments => arguments self
  | .argumentList => argumentList self
  | .arrayItems => arrayItems self
  | .objectItems => objectItems self

end ScriptLint.Grammar
