import ScriptLint.Syntax.Problem
import ScriptLint.Text.Class
import ScriptLint.Text.Cut

/-!
# Lexemes

A lexeme is a stretch of text with its kind. White space and comments are lexemes too, so the
lexemes of a text make up the whole of it (`join_lex`). A slash is always an operator: there are
no regular expression literals.

* `scanTemplate` reads a template literal to its end, over the templates, strings and braces that
  its substitutions nest;
* `scan` reads the lexeme that starts with a given character;
* `lex` cuts a text into lexemes and notes what is wrong with them.
-/

namespace ScriptLint

open Text

structure Lexeme where
  kind : SyntaxKind
  text : Text
  deriving DecidableEq, Repr

namespace Lexeme

def isTrivia (l : Lexeme) : Bool := l.kind.isTrivia

def size (l : Lexeme) : Nat := Text.size l.text

def hasLineBreak (l : Lexeme) : Bool := l.text.any isLineBreak

/-- The text that a run of lexemes makes up. -/
def join (ls : List Lexeme) : Text := ls.flatMap (·.text)

/-- A block comment after its opening, and whether it is closed. -/
def scanComment : (cs : Text) → Cut cs × Bool
  | [] => (.none [], false)
  | '*' :: '/' :: cs => (.cons '*' (.cons '/' (.none cs)), true)
  | c :: cs =>
    let tail := scanComment cs
    (tail.1.cons c, tail.2)

/-- A string literal after its opening quote, and whether it is closed. A backslash takes the next
character with it, whatever that is; a bare line break ends the string unclosed. -/
def scanString (quote : Char) : (cs : Text) → Cut cs × Bool
  | [] => (.none [], false)
  | '\\' :: c :: cs =>
    let tail := scanString quote cs
    (.cons '\\' (tail.1.cons c), tail.2)
  | c :: cs =>
    if isLineBreak c then (.none (c :: cs), false)
    else if c = quote then (.cons c (.none cs), true)
    else
      let tail := scanString quote cs
      (tail.1.cons c, tail.2)

def isDigitPart (c : Char) : Bool := c.isDigit || c == '_'

def isHexPart (c : Char) : Bool := isHexDigit c || c == '_'

def isExponentMark (c : Char) : Bool := c == 'e' || c == 'E'

def isSign (c : Char) : Bool := c == '+' || c == '-'

/-- How many characters introduce an exponent: none unless a digit follows the mark and its sign. -/
def exponentLead : Text → Nat
  | e :: d :: cs =>
    if ¬ isExponentMark e then 0
    else if d.isDigit then 1
    else if isSign d && cs.head?.any Char.isDigit then 2
    else 0
  | _ => 0

def scanExponent (cs : Text) : Cut cs :=
  match exponentLead cs with
  | 0 => .none cs
  | n => (Cut.take n cs).andThen (.run isDigitPart)

def scanFraction (cs : Text) : Cut cs :=
  if cs.head? = some '.' then (Cut.take 1 cs).andThen (.run isDigitPart) else .none cs

/-- Whether a letter after a leading zero makes a number hexadecimal, octal or binary. The digits of
all three are read alike. -/
def isRadixMark (c : Char) : Bool := ['x', 'X', 'o', 'O', 'b', 'B'].contains c

/-- A number after its first character, a digit or a point. -/
def scanNumber (first : Char) (cs : Text) : Cut cs :=
  if first = '0' ∧ cs.head?.any isRadixMark then (Cut.take 1 cs).andThen (.run isHexPart)
  else if first = '.' then (Cut.run isDigitPart cs).andThen scanExponent
  else ((Cut.run isDigitPart cs).andThen scanFraction).andThen scanExponent

def backtick : Char := Char.ofNat 0x60

def isQuote (c : Char) : Bool := c == '"' || c == '\''

/-- What is open while a template literal is read: a template, with the braces open in its current
substitution, the one of the substitution included; or a string inside a substitution. -/
inductive Open where
  | template (start : Nat) (braces : Nat)
  | quoted (start : Nat) (quote : Char)
  deriving DecidableEq, Repr

namespace Open

/-- Whether a backslash takes the next character with it: not between the parts of a substitution. -/
def escapes : Open → Bool
  | .template _ braces => braces == 0
  | .quoted _ _ => true

/-- The error of whatever the text leaves open when it ends at `offset`. -/
def unclosed (offset : Nat) : Open → SyntaxError
  | .template start _ => ⟨.unterminatedTemplate, ⟨start, offset⟩⟩
  | .quoted start _ => ⟨.unterminatedString, ⟨start, offset⟩⟩

/-- What a single character at `offset` leaves open of the innermost open thing. A line break ends
a string unclosed, and is then a character of the substitution. -/
def after (offset : Nat) (c : Char) : Open → List Open × List SyntaxError
  | .quoted start quote =>
    if isLineBreak c then ([], [⟨.unterminatedString, ⟨start, offset⟩⟩])
    else if c = quote then ([], [])
    else ([.quoted start quote], [])
  | .template start 0 => if c = backtick then ([], []) else ([.template start 0], [])
  | .template start (braces + 1) =>
    if c = '{' then ([.template start (braces + 2)], [])
    else if c = '}' then ([.template start braces], [])
    else if isQuote c then ([.quoted offset c, .template start (braces + 1)], [])
    else if c = backtick then ([.template offset 0, .template start (braces + 1)], [])
    else ([.template start (braces + 1)], [])

/-- The start of a substitution is two characters of a template outside of any other. -/
def entersSubstitution (c d : Char) : Open → Option Open
  | .template start 0 => if c = '$' ∧ d = '{' then some (.template start 1) else none
  | _ => none

end Open

/-- Reads on until nothing is open. -/
def scanTemplate (offset : Nat) : List Open → (cs : Text) → Cut cs × List SyntaxError
  | [], cs => (.none cs, [])
  | opens, [] => (.none [], opens.map (Open.unclosed offset))
  | o :: opens, [c] =>
    let (inner, errors) := o.after offset c
    let (cut, more) := scanTemplate (offset + c.utf8Size) (inner ++ opens) []
    (cut.cons c, errors ++ more)
  | o :: opens, c :: d :: cs =>
    if c = '\\' ∧ o.escapes then
      let (cut, more) := scanTemplate (offset + c.utf8Size + d.utf8Size) (o :: opens) cs
      ((cut.cons d).cons c, more)
    else
      match o.entersSubstitution c d with
      | some entered =>
        let (cut, more) := scanTemplate (offset + c.utf8Size + d.utf8Size) (entered :: opens) cs
        ((cut.cons d).cons c, more)
      | none =>
        let (inner, errors) := o.after offset c
        let (cut, more) := scanTemplate (offset + c.utf8Size) (inner ++ opens) (d :: cs)
        (cut.cons c, errors ++ more)

/-- Punctuation, longer texts before the shorter ones they start with. -/
def punctuation : List (Text × SyntaxKind) :=
  [(['=', '=', '='], .strictEqual), (['!', '=', '='], .strictUnequal), (['=', '='], .looseEqual),
   (['!', '='], .looseUnequal), (['<', '='], .lessEqual), (['>', '='], .greaterEqual),
   (['&', '&'], .and), (['|', '|'], .or), (['?', '?'], .coalesce), (['+', '='], .plusAssign),
   (['-', '='], .minusAssign), (['*', '='], .starAssign), (['/', '='], .slashAssign),
   (['+', '+'], .increment), (['-', '-'], .decrement), (['('], .leftParen), ([')'], .rightParen),
   (['['], .leftBracket), ([']'], .rightBracket), (['{'], .leftBrace), (['}'], .rightBrace),
   ([';'], .semicolon), ([','], .comma), (['.'], .dot), (['?'], .question), ([':'], .colon),
   (['='], .assign), (['<'], .less), (['>'], .greater), (['+'], .plus), (['-'], .minus),
   (['*'], .star), (['/'], .slash), (['%'], .percent), (['!'], .bang), (['~'], .tilde)]

/-- A lexeme whose first character is known: its kind, the rest of its text cut off from what
follows, and what is wrong with it. -/
structure Scan (cs : Text) where
  kind : SyntaxKind
  cut : Cut cs
  errors : List SyntaxError := []

/-- The error of a lexeme that ends too early. -/
def unfinished (problem : SyntaxProblem) (start : Nat) (first : Char) (taken : Text) (closed : Bool) :
    List SyntaxError :=
  if closed then [] else [⟨problem, ⟨start, start + first.utf8Size + Text.size taken⟩⟩]

def scanWord (first : Char) (cs : Text) : Scan cs :=
  let cut := Cut.run isWordPart cs
  ⟨(SyntaxKind.ofReserved? (String.ofList (first :: cut.taken))).getD .ident, cut, []⟩

def scanPunctuation (start : Nat) (first : Char) (cs : Text) : Scan cs :=
  match punctuation.find? fun entry => entry.1.isPrefixOf (first :: cs) with
  | some (text, kind) => ⟨kind, .take (text.length - 1) cs, []⟩
  | none => ⟨.error, .none cs, unfinished (.unexpectedCharacter first) start first [] false⟩

/-- The lexeme that starts with `first` at the offset `start`, with `cs` behind. -/
def scan (start : Nat) (first : Char) (cs : Text) : Scan cs :=
  if isBlank first then ⟨.whitespace, .run isBlank cs, []⟩
  else if first = '/' ∧ cs.head? = some '/' then
    ⟨.lineComment, .run (fun c => ! isLineBreak c) cs, []⟩
  else if first = '/' ∧ cs.head? = some '*' then
    let cut := (Cut.take 1 cs).andThen fun cs => (scanComment cs).1
    ⟨.blockComment, cut,
      unfinished .unterminatedComment start first cut.taken (scanComment (cs.drop 1)).2⟩
  else if first.isDigit ∨ (first = '.' ∧ cs.head?.any Char.isDigit) then
    ⟨.number, scanNumber first cs, []⟩
  else if isQuote first then
    let (cut, closed) := scanString first cs
    ⟨.string, cut, unfinished .unterminatedString start first cut.taken closed⟩
  else if first = backtick then
    let (cut, errors) := scanTemplate (start + first.utf8Size) [.template start 0] cs
    ⟨.template, cut, errors⟩
  else if isWordStart first then scanWord first cs
  else scanPunctuation start first cs

/-- The lexemes from an offset on, with the errors in them. -/
def lexFrom (offset : Nat) : Text → List Lexeme × List SyntaxError
  | [] => ([], [])
  | c :: cs =>
    let s := scan offset c cs
    let (lexemes, errors) := lexFrom (offset + c.utf8Size + Text.size s.cut.taken) s.cut.rest
    (⟨s.kind, c :: s.cut.taken⟩ :: lexemes, s.errors ++ errors)
  termination_by cs => cs.length
  decreasing_by
    have := (scan offset c cs).cut.length_rest_le
    simp only [List.length_cons]
    omega

end Lexeme

structure Lexed where
  lexemes : List Lexeme
  errors : List SyntaxError

/-- The lexemes of a text, in order, and the errors in the order in which they are met. -/
def lex (text : Text) : Lexed :=
  let (lexemes, errors) := Lexeme.lexFrom 0 text
  ⟨lexemes, errors⟩

theorem Lexeme.join_lexFrom (offset : Nat) (text : Text) :
    Lexeme.join (Lexeme.lexFrom offset text).1 = text := by
  fun_induction Lexeme.lexFrom offset text with
  | case1 => rfl
  | case2 offset c cs s lexemes errors eq ih =>
    simp only [eq] at ih
    simp only [Lexeme.join, List.flatMap_cons] at ih ⊢
    rw [ih, List.cons_append, s.cut.joined]

/-- The lexemes make up the text. -/
theorem join_lex (text : Text) : Lexeme.join (lex text).lexemes = text :=
  Lexeme.join_lexFrom 0 text

end ScriptLint
