import ScriptLint.Syntax.Tree

/-!
# Cursors and parsers

A cursor is a place among the lexemes of a text: the offset of the place and the lexemes from there
on. A `Parser n` works at any cursor with fewer than `n` lexemes left and leaves fewer than `n`; what
it reads it hands out as trees, to be put into the node that is open. Reading one token turns a
`Parser (n + 1)` into a `Parser n` (`take`), so a grammar that recurs only behind a token is
defined by recursion on `n`, and no text makes it run on.

Trivia goes into the node that is open when it is read. A node is opened at its first significant
token, so the trivia before that belongs to the surrounding node (`node`, `marked`).
-/

namespace ScriptLint

structure Cursor where
  offset : Nat
  rest : List Lexeme

namespace Cursor

def length (c : Cursor) : Nat := c.rest.length

def trivia (c : Cursor) : List Lexeme := c.rest.takeWhile Lexeme.isTrivia

/-- The cursor behind the trivia, at a significant lexeme or at the end. -/
def pastTrivia (c : Cursor) : Cursor :=
  ⟨c.offset + Text.size (Lexeme.join c.trivia), c.rest.dropWhile Lexeme.isTrivia⟩

theorem length_pastTrivia_le (c : Cursor) : c.pastTrivia.length ≤ c.length :=
  (List.dropWhile_sublist _).length_le

/-- The next significant lexeme. -/
def significant? (c : Cursor) : Option Lexeme := c.pastTrivia.rest.head?

/-- The kind of the next significant lexeme. -/
def current (c : Cursor) : SyntaxKind := (c.significant?.map (·.kind)).getD .endOfInput

/-- Where the next significant lexeme is; the empty span at the end of the text if there is none. -/
def currentSpan (c : Cursor) : Span :=
  let start := c.pastTrivia.offset
  ⟨start, start + ((c.significant?.map Lexeme.size).getD 0)⟩

/-- Whether a line ends before the next significant lexeme. -/
def atLineBreak (c : Cursor) : Bool := c.trivia.any Lexeme.hasLineBreak

/-- Whether the next significant lexeme is a name spelled like this. -/
def atWord (c : Cursor) (word : Text) : Bool :=
  c.significant?.any fun l => l.kind == .ident && l.text == word

end Cursor

/-- Trees that were read, errors that were met, and the cursor behind them, with fewer than `n`
lexemes left. -/
structure Parsed (n : Nat) where
  out : List Tree
  errors : List SyntaxError
  next : Cursor
  bound : next.length < n

abbrev Parser (n : Nat) := (c : Cursor) → c.length < n → Parsed n

namespace Parser

variable {n : Nat}

/-- Hands out trees without reading anything. -/
def emit (out : List Tree) : Parser n := fun c h => ⟨out, [], c, h⟩

def skip : Parser n := emit []

/-- Chooses by what comes next. -/
def look (choose : Cursor → Parser n) : Parser n := fun c h => choose c c h

def andThen (p q : Parser n) : Parser n := fun c h =>
  let a := p c h
  let b := q a.next a.bound
  ⟨a.out ++ b.out, a.errors ++ b.errors, b.next, b.bound⟩

/-- Reads with `p` and leaves it to the continuation what to hand out for it. -/
def capture (p : Parser n) (use : List Tree → Parser n) : Parser n := fun c h =>
  let a := p c h
  let b := use a.out a.next a.bound
  ⟨b.out, a.errors ++ b.errors, b.next, b.bound⟩

/-- Reads the trivia before the next significant lexeme. -/
def trivia : Parser n := fun c h =>
  ⟨c.trivia.map Tree.ofLexeme, [], c.pastTrivia, Nat.lt_of_le_of_lt c.length_pastTrivia_le h⟩

/-- Reads with `p` from the next significant lexeme on, and leaves it to the continuation what to
hand out for it. -/
def marked (p : Parser n) (use : List Tree → Parser n) : Parser n := andThen trivia (capture p use)

/-- A node around what `p` reads. -/
def node (kind : SyntaxKind) (p : Parser n) : Parser n :=
  marked p fun children => emit [.node kind children]

/-- A node around trees already read and what `p` reads behind them. -/
def wrap (kind : SyntaxKind) (before : List Tree) (p : Parser n) : Parser n :=
  capture p fun children => emit [.node kind (before ++ children)]

/-- Notes an error at the next significant lexeme. -/
def fail (problem : SyntaxKind → SyntaxProblem) : Parser n := fun c h =>
  ⟨[], [⟨problem c.current, c.currentSpan⟩], c, h⟩

/-- Reads the next significant lexeme. The continuation gets the trivia before it and the token, and
goes on with one lexeme less. -/
def take (use : List Tree → Lexeme → Parser n) : Parser (n + 1) := fun c h =>
  match eq : c.pastTrivia.rest with
  | [] => ⟨c.trivia.map Tree.ofLexeme, [], c.pastTrivia, Nat.lt_of_le_of_lt c.length_pastTrivia_le h⟩
  | l :: rest =>
    let next : Cursor := ⟨c.pastTrivia.offset + l.size, rest⟩
    have bound : next.length < n := by
      have := c.length_pastTrivia_le
      simp only [Cursor.length, eq, List.length_cons] at this h ⊢
      show rest.length < n
      omega
    let a := use (c.trivia.map Tree.ofLexeme) l next bound
    ⟨a.out, a.errors, a.next, Nat.lt_succ_of_lt a.bound⟩

/-- Reads the next significant lexeme and goes on behind it. -/
def bumpThen (p : Parser n) : Parser (n + 1) :=
  take fun trivia l => andThen (emit (trivia ++ [.ofLexeme l])) p

/-- Reads the next significant lexeme as a token of the given kind. -/
def bumpAs (kind : SyntaxKind) : Parser n := fun c h =>
  match eq : c.pastTrivia.rest with
  | [] => trivia c h
  | l :: rest =>
    ⟨c.trivia.map Tree.ofLexeme ++ [.token kind l.text], [], ⟨c.pastTrivia.offset + l.size, rest⟩, by
      have := c.length_pastTrivia_le
      simp only [Cursor.length, eq, List.length_cons] at this h ⊢
      omega⟩

def bump : Parser n := look fun c => bumpAs c.current

/-- Reads a lexeme of a kind, or notes that it is missing. -/
def expect (kind : SyntaxKind) : Parser n :=
  look fun c => if c.current = kind then bump else fail (.expected kind)

/-- Notes an error and, unless the text is over, puts the next significant lexeme into an error
node. -/
def reject (problem : SyntaxKind → SyntaxProblem) : Parser n :=
  look fun c =>
    if c.current = .endOfInput then fail problem else andThen (fail problem) (node .error bump)

/-- Goes on with `more` if `p` read something, and with `stuck` if it did not. -/
def progress (p : Parser (n + 1)) (more : Parser n) (stuck : Parser (n + 1)) : Parser (n + 1) :=
  fun c h =>
    let a := p c h
    if shorter : a.next.length < c.length then
      let b := more a.next (Nat.lt_of_lt_of_le shorter (Nat.le_of_lt_succ h))
      ⟨a.out ++ b.out, a.errors ++ b.errors, b.next, Nat.lt_succ_of_lt b.bound⟩
    else
      let b := stuck a.next a.bound
      ⟨a.out ++ b.out, a.errors ++ b.errors, b.next, b.bound⟩

/-- As `reject`, going on behind the rejected lexeme. -/
def rejectThen (problem : SyntaxKind → SyntaxProblem) (more : Parser n) : Parser (n + 1) :=
  look fun c =>
    if c.current = .endOfInput then fail problem
    else
      andThen (fail problem)
        (take fun trivia l => andThen (emit (trivia ++ [.node .error [.ofLexeme l]])) more)

end Parser

end ScriptLint
