/-!
# Kinds of tokens and nodes

Every token and every node of a tree has a kind. A kind has a name, which reports print, and a code,
whose range tells what sort of kind it is: trivia below 10, keywords below 100, punctuation below
150, names and literals below 200, nodes from 200 to 399, recovery from 400 on.
-/

namespace ScriptLint

inductive SyntaxKind where
  -- Trivia.
  | whitespace | lineComment | blockComment
  -- Keywords; `ofKeyword` is contextual and only made by the parser, in the head of a loop.
  | varKeyword | letKeyword | constKeyword | forKeyword | inKeyword | ofKeyword | ifKeyword
  | elseKeyword | returnKeyword | typeofKeyword | voidKeyword | deleteKeyword | newKeyword
  | trueKeyword | falseKeyword | nullKeyword | thisKeyword
  -- Punctuation and operators.
  | leftParen | rightParen | leftBracket | rightBracket | leftBrace | rightBrace | semicolon
  | comma | dot | question | colon | assign | looseEqual | strictEqual | looseUnequal
  | strictUnequal | less | greater | lessEqual | greaterEqual | plus | minus | star | slash
  | percent | bang | tilde | and | or | coalesce | plusAssign | minusAssign | starAssign
  | slashAssign | increment | decrement
  -- Names and literals; a template literal is one token, substitutions included.
  | ident | number | string | template
  -- Nodes.
  | program | variableDeclaration | variableDeclarator | expressionStatement | emptyStatement
  | blockStatement | ifStatement | returnStatement | forStatement | forInStatement
  | forOfStatement | identifier | literal | templateLiteral | taggedTemplateExpression
  | memberExpression | callExpression | newExpression | arguments | unaryExpression
  | updateExpression | binaryExpression | logicalExpression | assignmentExpression
  | conditionalExpression | sequenceExpression | arrayExpression | objectExpression | property
  | parenthesizedExpression | thisExpression
  -- Tokens and nodes that hold what fits nowhere, and the end of the text, which no tree holds.
  | error | endOfInput
  deriving DecidableEq, Hashable, Repr, Inhabited

namespace SyntaxKind

/-- Every kind, in ascending order of codes. -/
def all : List SyntaxKind :=
  [.whitespace, .lineComment, .blockComment, .varKeyword, .letKeyword, .constKeyword,
   .forKeyword, .inKeyword, .ofKeyword, .ifKeyword, .elseKeyword, .returnKeyword, .typeofKeyword,
   .voidKeyword, .deleteKeyword, .newKeyword, .trueKeyword, .falseKeyword, .nullKeyword,
   .thisKeyword, .leftParen, .rightParen, .leftBracket, .rightBracket, .leftBrace, .rightBrace,
   .semicolon, .comma, .dot, .question, .colon, .assign, .looseEqual, .strictEqual,
   .looseUnequal, .strictUnequal, .less, .greater, .lessEqual, .greaterEqual, .plus, .minus,
   .star, .slash, .percent, .bang, .tilde, .and, .or, .coalesce, .plusAssign, .minusAssign,
   .starAssign, .slashAssign, .increment, .decrement, .ident, .number, .string, .template,
   .program, .variableDeclaration, .variableDeclarator, .expressionStatement, .emptyStatement,
   .blockStatement, .ifStatement, .returnStatement, .forStatement, .forInStatement,
   .forOfStatement, .identifier, .literal, .templateLiteral, .taggedTemplateExpression,
   .memberExpression, .callExpression, .newExpression, .arguments, .unaryExpression,
   .updateExpression, .binaryExpression, .logicalExpression, .assignmentExpression,
   .conditionalExpression, .sequenceExpression, .arrayExpression, .objectExpression, .property,
   .parenthesizedExpression, .thisExpression, .error, .endOfInput]

def code : SyntaxKind → Nat
  | .whitespace => 0
  | .lineComment => 1
  | .blockComment => 2
  | .varKeyword => 10
  | .letKeyword => 11
  | .constKeyword => 12
  | .forKeyword => 13
  | .inKeyword => 14
  | .ofKeyword => 15
  | .ifKeyword => 16
  | .elseKeyword => 17
  | .returnKeyword => 18
  | .typeofKeyword => 19
  | .voidKeyword => 20
  | .deleteKeyword => 21
  | .newKeyword => 22
  | .trueKeyword => 23
  | .falseKeyword => 24
  | .nullKeyword => 25
  | .thisKeyword => 26
  | .leftParen => 100
  | .rightParen => 101
  | .leftBracket => 102
  | .rightBracket => 103
  | .leftBrace => 104
  | .rightBrace => 105
  | .semicolon => 106
  | .comma => 107
  | .dot => 108
  | .question => 109
  | .colon => 110
  | .assign => 111
  | .looseEqual => 112
  | .strictEqual => 113
  | .looseUnequal => 114
  | .strictUnequal => 115
  | .less => 116
  | .greater => 117
  | .lessEqual => 118
  | .greaterEqual => 119
  | .plus => 120
  | .minus => 121
  | .star => 122
  | .slash => 123
  | .percent => 124
  | .bang => 125
  | .tilde => 126
  | .and => 127
  | .or => 128
  | .coalesce => 129
  | .plusAssign => 130
  | .minusAssign => 131
  | .starAssign => 132
  | .slashAssign => 133
  | .increment => 134
  | .decrement => 135
  | .ident => 150
  | .number => 151
  | .string => 152
  | .template => 153
  | .program => 200
  | .variableDeclaration => 210
  | .variableDeclarator => 211
  | .expressionStatement => 212
  | .emptyStatement => 213
  | .blockStatement => 214
  | .ifStatement => 215
  | .returnStatement => 216
  | .forStatement => 217
  | .forInStatement => 218
  | .forOfStatement => 219
  | .identifier => 250
  | .literal => 251
  | .templateLiteral => 252
  | .taggedTemplateExpression => 253
  | .memberExpression => 254
  | .callExpression => 255
  | .newExpression => 256
  | .arguments => 257
  | .unaryExpression => 258
  | .updateExpression => 259
  | .binaryExpression => 260
  | .logicalExpression => 261
  | .assignmentExpression => 262
  | .conditionalExpression => 263
  | .sequenceExpression => 264
  | .arrayExpression => 265
  | .objectExpression => 266
  | .property => 267
  | .parenthesizedExpression => 268
  | .thisExpression => 269
  | .error => 400
  | .endOfInput => 401

def name : SyntaxKind → String
  | .whitespace => "Whitespace"
  | .lineComment => "LineComment"
  | .blockComment => "BlockComment"
  | .varKeyword => "VarKw"
  | .letKeyword => "LetKw"
  | .constKeyword => "ConstKw"
  | .forKeyword => "ForKw"
  | .inKeyword => "InKw"
  | .ofKeyword => "OfKw"
  | .ifKeyword => "IfKw"
  | .elseKeyword => "ElseKw"
  | .returnKeyword => "ReturnKw"
  | .typeofKeyword => "TypeofKw"
  | .voidKeyword => "VoidKw"
  | .deleteKeyword => "DeleteKw"
  | .newKeyword => "NewKw"
  | .trueKeyword => "TrueKw"
  | .falseKeyword => "FalseKw"
  | .nullKeyword => "NullKw"
  | .thisKeyword => "ThisKw"
  | .leftParen => "LParen"
  | .rightParen => "RParen"
  | .leftBracket => "LBracket"
  | .rightBracket => "RBracket"
  | .leftBrace => "LBrace"
  | .rightBrace => "RBrace"
  | .semicolon => "Semicolon"
  | .comma => "Comma"
  | .dot => "Dot"
  | .question => "Question"
  | .colon => "Colon"
  | .assign => "Eq"
  | .looseEqual => "EqEq"
  | .strictEqual => "EqEqEq"
  | .looseUnequal => "BangEq"
  | .strictUnequal => "BangEqEq"
  | .less => "Lt"
  | .greater => "Gt"
  | .lessEqual => "LtEq"
  | .greaterEqual => "GtEq"
  | .plus => "Plus"
  | .minus => "Minus"
  | .star => "Star"
  | .slash => "Slash"
  | .percent => "Percent"
  | .bang => "Bang"
  | .tilde => "Tilde"
  | .and => "AmpAmp"
  | .or => "PipePipe"
  | .coalesce => "QuestionQuestion"
  | .plusAssign => "PlusEq"
  | .minusAssign => "MinusEq"
  | .starAssign => "StarEq"
  | .slashAssign => "SlashEq"
  | .increment => "PlusPlus"
  | .decrement => "MinusMinus"
  | .ident => "Ident"
  | .number => "Number"
  | .string => "String"
  | .template => "Template"
  | .program => "Program"
  | .variableDeclaration => "VariableDeclaration"
  | .variableDeclarator => "VariableDeclarator"
  | .expressionStatement => "ExpressionStatement"
  | .emptyStatement => "EmptyStatement"
  | .blockStatement => "BlockStatement"
  | .ifStatement => "IfStatement"
  | .returnStatement => "ReturnStatement"
  | .forStatement => "ForStatement"
  | .forInStatement => "ForInStatement"
  | .forOfStatement => "ForOfStatement"
  | .identifier => "Identifier"
  | .literal => "Literal"
  | .templateLiteral => "TemplateLiteral"
  | .taggedTemplateExpression => "TaggedTemplateExpression"
  | .memberExpression => "MemberExpression"
  | .callExpression => "CallExpression"
  | .newExpression => "NewExpression"
  | .arguments => "Arguments"
  | .unaryExpression => "UnaryExpression"
  | .updateExpression => "UpdateExpression"
  | .binaryExpression => "BinaryExpression"
  | .logicalExpression => "LogicalExpression"
  | .assignmentExpression => "AssignmentExpression"
  | .conditionalExpression => "ConditionalExpression"
  | .sequenceExpression => "SequenceExpression"
  | .arrayExpression => "ArrayExpression"
  | .objectExpression => "ObjectExpression"
  | .property => "Property"
  | .parenthesizedExpression => "ParenthesizedExpression"
  | .thisExpression => "ThisExpression"
  | .error => "Error"
  | .endOfInput => "Eof"

def ofCode? (n : Nat) : Option SyntaxKind := all.find? (·.code == n)

def ofName? (s : String) : Option SyntaxKind := all.find? (·.name == s)

/-- White space and comments. -/
def isTrivia : SyntaxKind → Bool
  | .whitespace | .lineComment | .blockComment => true
  | _ => false

def isComment : SyntaxKind → Bool
  | .lineComment | .blockComment => true
  | _ => false

def isKeyword (k : SyntaxKind) : Bool := 10 ≤ k.code && k.code < 100

def isPunctuation (k : SyntaxKind) : Bool := 100 ≤ k.code && k.code < 150

def isLiteral : SyntaxKind → Bool
  | .number | .string | .template | .trueKeyword | .falseKeyword | .nullKeyword => true
  | _ => false

def isNode (k : SyntaxKind) : Bool := 200 ≤ k.code && k.code < 400

/-- The reserved words. `of` is not one of them: only its place in a loop makes it a keyword. -/
def reserved : List (String × SyntaxKind) :=
  [("var", .varKeyword), ("let", .letKeyword), ("const", .constKeyword), ("for", .forKeyword),
   ("in", .inKeyword), ("if", .ifKeyword), ("else", .elseKeyword), ("return", .returnKeyword),
   ("typeof", .typeofKeyword), ("void", .voidKeyword), ("delete", .deleteKeyword),
   ("new", .newKeyword), ("true", .trueKeyword), ("false", .falseKeyword),
   ("null", .nullKeyword), ("this", .thisKeyword)]

def ofReserved? (word : String) : Option SyntaxKind := reserved.lookup word

theorem ofReserved?_of_name_of : ofReserved? "of" = none := by decide

end SyntaxKind

end ScriptLint
