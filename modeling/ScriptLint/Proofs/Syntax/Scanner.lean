import ScriptLint.Syntax.Lexeme

/-!
# The scanner

Lexing as routines that share one byte offset into the text and two lists, of tokens and of errors.
Every routine looks at the text from the offset on, which cuts the text there, and moves the offset
by as many bytes as it takes to have read something. A routine that would cut the text inside of a
character, or close a brace that is not open, has the result `some (.error _)`.

Each turn of a loop and each template inside of a template goes through a bound, and a routine that
runs out of it has the result `none`. So a text is scanned to its end, and never cut inside of a
character, if the result is `some (.ok _)` for all bounds from some bound on.
-/

namespace ScriptLint

open Text Lexeme

/-- What no scanner may do. -/
inductive ScannerFault where
  | insideCharacter (offset : Nat)
  | outOfOrder (span : Span)
  | unopenedBrace (offset : Nat)
  deriving DecidableEq, Repr

structure ScannerState where
  offset : Nat
  tokens : List (SyntaxKind × Span)
  errors : List SyntaxError

abbrev Scanner := StateT ScannerState (ExceptT ScannerFault Option)

namespace Scanner

/-- The offset of the first place where a text occurs in another. -/
def find? (pattern : Text) : Text → Option Nat
  | [] => if pattern = [] then some 0 else none
  | c :: cs =>
    if pattern.isPrefixOf (c :: cs) then some 0 else (find? pattern cs).map (c.utf8Size + ·)

def here : Scanner Nat := do return (← get).offset

def advance (bytes : Nat) : Scanner Unit := modify fun s => { s with offset := s.offset + bytes }

def jump (offset : Nat) : Scanner Unit := modify fun s => { s with offset }

/-- Notes an error from an offset up to where the scanner has got to. -/
def note (problem : SyntaxProblem) (start : Nat) : Scanner Unit :=
  modify fun s => { s with errors := s.errors ++ [⟨problem, ⟨start, s.offset⟩⟩] }

def push (kind : SyntaxKind) (start : Nat) : Scanner Unit :=
  modify fun s => { s with tokens := s.tokens ++ [(kind, ⟨start, s.offset⟩)] }

/-- One brace less is open. -/
def close (depth : Nat) : Scanner Nat := do
  match depth with
  | 0 => throw (.unopenedBrace (← here))
  | depth + 1 => return depth

variable (text : Text)

/-- The text from the offset on. -/
def rest : Scanner Text := do
  let offset ← here
  match split? text offset with
  | some (_, behind) => return behind
  | none => throw (.insideCharacter offset)

/-- The text from an offset up to where the scanner has got to. -/
def since (start : Nat) : Scanner Text := do
  let offset ← here
  match slice? text start offset with
  | some inside => return inside
  | none => throw (.outOfOrder ⟨start, offset⟩)

def peek : Scanner (Option Char) := do return (← rest text).head?

def nth (n : Nat) : Scanner (Option Char) := do return (← rest text)[n]?

/-- Whether a text comes next. -/
def comes (pattern : Text) : Scanner Bool := do return pattern.isPrefixOf (← rest text)

def bump : Scanner Unit := do
  match ← peek text with
  | some c => advance c.utf8Size
  | none => pure ()

def eatWhile (p : Char → Bool) : (bound : Nat) → Scanner Unit
  | 0 => fun _ => none
  | bound + 1 => do
    match ← peek text with
    | some c =>
      if p c then
        advance c.utf8Size
        eatWhile p bound
    | none => pure ()

def blockComment (start : Nat) : Scanner SyntaxKind := do
  advance 2
  match find? ['*', '/'] (← rest text) with
  | some stop => advance (stop + 2)
  | none =>
    jump (Text.size text)
    note .unterminatedComment start
  return .blockComment

/-- The first two bytes of what comes, if they are characters, in lower case. -/
def radix? : Scanner (Option Text) := do
  return (slice? (← rest text) 0 2).map fun mark => mark.map Char.toLower

def fraction (bound : Nat) : Scanner Unit := do
  if (← peek text) = some '.' then
    advance 1
    eatWhile text isDigitPart bound

/-- The character after the mark of an exponent and its sign. -/
def exponentDigit : Scanner (Option Char) := do
  let next ← nth text 1
  if next.any isSign then nth text 2 else return next

def exponent (bound : Nat) : Scanner Unit := do
  if (← peek text).any isExponentMark then
    if (← exponentDigit text).any Char.isDigit then
      advance 1
      if (← peek text).any isSign then advance 1
      eatWhile text isDigitPart bound

def number (bound : Nat) : Scanner SyntaxKind := do
  let mark ← radix? text
  if mark = some ['0', 'x'] ∨ mark = some ['0', 'o'] ∨ mark = some ['0', 'b'] then
    advance 2
    eatWhile text isHexPart bound
  else
    eatWhile text isDigitPart bound
    fraction text bound
    exponent text bound
  return .number

/-- A string behind its quote. -/
def stringRest (quote : Char) (start : Nat) : (bound : Nat) → Scanner Unit
  | 0 => fun _ => none
  | bound + 1 => do
    match ← peek text with
    | none => note .unterminatedString start
    | some c =>
      if isLineBreak c then note .unterminatedString start
      else if c = '\\' then
        advance 1
        bump text
        stringRest quote start bound
      else if c = quote then advance c.utf8Size
      else
        advance c.utf8Size
        stringRest quote start bound

def string (quote : Char) (bound : Nat) : Scanner SyntaxKind := do
  let start ← here
  advance quote.utf8Size
  stringRest text quote start bound
  return .string

/-- A template behind its backtick, with some braces open in its current substitution. -/
def templateRest : (bound : Nat) → (start depth : Nat) → Scanner Unit
  | 0, _, _ => fun _ => none
  | bound + 1, start, depth => do
    match ← peek text with
    | none => note .unterminatedTemplate start
    | some c =>
      if depth = 0 then
        if c = '\\' then
          advance 1
          bump text
          templateRest bound start 0
        else if c = backtick then advance 1
        else if c = '$' ∧ (← nth text 1) = some '{' then
          advance 2
          templateRest bound start 1
        else
          advance c.utf8Size
          templateRest bound start 0
      else if c = '{' then
        advance 1
        templateRest bound start (depth + 1)
      else if c = '}' then
        let depth ← close depth
        advance 1
        templateRest bound start depth
      else if isQuote c then
        let _ ← string text c bound
        templateRest bound start depth
      else if c = backtick then
        let inner ← here
        advance 1
        templateRest bound inner 0
        templateRest bound start depth
      else
        advance c.utf8Size
        templateRest bound start depth

def template (bound : Nat) : Scanner SyntaxKind := do
  let start ← here
  advance 1
  templateRest text bound start 0
  return .template

def word (bound : Nat) : Scanner SyntaxKind := do
  let start ← here
  eatWhile text isWordPart bound
  return (SyntaxKind.ofReserved? (String.ofList (← since text start))).getD .ident

def punctuator (first : Char) : Scanner SyntaxKind := do
  let behind ← rest text
  match punctuation.find? fun entry => entry.1.isPrefixOf behind with
  | some (mark, kind) =>
    advance (Text.size mark)
    return kind
  | none =>
    let start ← here
    advance first.utf8Size
    note (.unexpectedCharacter first) start
    return .error

/-- Whether a number comes, when its first character is known. -/
def atNumber (first : Char) : Scanner Bool := do
  return first.isDigit || (first == '.' && (← nth text 1).any Char.isDigit)

/-- Whatever starts with a given character. -/
def lexeme (first : Char) (bound : Nat) : Scanner SyntaxKind := do
  if isBlank first then
    eatWhile text isBlank bound
    return .whitespace
  else if ← comes text ['/', '/'] then
    eatWhile text (fun c => ! isLineBreak c) bound
    return .lineComment
  else if ← comes text ['/', '*'] then blockComment text (← here)
  else if ← atNumber text first then number text bound
  else if isQuote first then string text first bound
  else if first = backtick then template text bound
  else if isWordStart first then word text bound
  else punctuator text first

/-- The main loop. -/
def tokens : (bound : Nat) → Scanner Unit
  | 0 => fun _ => none
  | bound + 1 => do
    match ← peek text with
    | some first =>
      let start ← here
      push (← lexeme text first (bound + 1)) start
      tokens bound
    | none => pure ()

end Scanner

/-- Scans a text within a bound. -/
def scanWithin (bound : Nat) (text : Text) :
    Option (Except ScannerFault (List (SyntaxKind × Span) × List SyntaxError)) :=
  match Scanner.tokens text bound ⟨0, [], []⟩ with
  | none => none
  | some (.error fault) => some (.error fault)
  | some (.ok ((), s)) => some (.ok (s.tokens, s.errors))

end ScriptLint
