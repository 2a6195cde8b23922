import ScriptLint.Config.Toml.Scalar
import ScriptLint.Config.Toml.Table

/-!
# Reading TOML

A document is a sequence of lines: headers, keys with their values, comments, and nothing. The reader
yields a `Wire` value.
-/

namespace ScriptLint.Toml

/-- What follows a comment, if the text starts with one that is well formed. -/
def skipComment (cs : Text) : Option Text :=
  match cs with
  | '#' :: rest =>
    let behind := rest.dropWhile fun c => ! isControl c
    if behind.isEmpty || (afterLineEnd? behind).isSome then some behind else none
  | cs => some cs

/-- The text without blanks, line ends and comments at its front. -/
def skipLines : Nat → Text → Option Text
  | 0, cs => some cs
  | fuel + 1, cs => do
    let cs ← skipComment (skipBlanks cs)
    match afterLineEnd? cs with
    | some rest => skipLines fuel rest
    | none => some cs

def skipAll (cs : Text) : Option Text := skipLines cs.length cs

/-- The rest of a line, which holds nothing but a comment. -/
def endLine (cs : Text) : Option Text := do
  let cs ← skipComment (skipBlanks cs)
  if cs.isEmpty then some [] else afterLineEnd? cs

def isKeyChar (c : Char) : Bool := c.isAlphanum || c == '_' || c == '-'

/-- One part of a key. -/
def readKeyPart (cs : Text) : Option (String × Text) :=
  let word := cs.takeWhile isKeyChar
  if word.isEmpty then readShortString cs
  else some (String.ofList word, cs.dropWhile isKeyChar)

/-- A key with its parts between points; blanks around a point say nothing. -/
def readKey : Nat → Text → Option (List String × Text)
  | 0, _ => none
  | fuel + 1, cs => do
    let (part, rest) ← readKeyPart (skipBlanks cs)
    match skipBlanks rest with
    | '.' :: rest => do
      let (parts, rest) ← readKey fuel rest
      some (part :: parts, rest)
    | rest => some ([part], rest)

/-- A key and the equals sign behind it. -/
def readKeyEquals (cs : Text) : Option (List String × Text) := do
  let (key, rest) ← readKey cs.length cs
  match rest with
  | '=' :: rest => some (key, skipBlanks rest)
  | _ => none

mutual
/-- One value and what follows it. -/
def readValue : Nat → Text → Option (Wire × Text)
  | 0, _ => none
  | fuel + 1, cs =>
    match cs with
    | '[' :: rest => (readItems fuel [] rest).map fun r => (.arr r.1, r.2)
    | '{' :: rest => (readPairs fuel [] rest).map fun r => (.obj (sortMembers (entriesToWire r.1)), r.2)
    | cs => readScalar cs

/-- The items of an array from here on; a comma may stand behind the last one. -/
def readItems : Nat → (seen : List Wire) → Text → Option (List Wire × Text)
  | 0, _, _ => none
  | fuel + 1, seen, cs => do
    match ← skipAll cs with
    | ']' :: rest => some (seen.reverse, rest)
    | cs => do
      let (value, rest) ← readValue fuel cs
      match ← skipAll rest with
      | ',' :: rest => readItems fuel (value :: seen) rest
      | ']' :: rest => some ((value :: seen).reverse, rest)
      | _ => none

/-- The pairs of a table in braces from here on; a comma may stand behind the last one. -/
def readPairs : Nat → (seen : Entries) → Text → Option (Entries × Text)
  | 0, _, _ => none
  | fuel + 1, seen, cs => do
    match ← skipAll cs with
    | '}' :: rest => some (seen, rest)
    | cs => do
      let (key, rest) ← readKeyEquals cs
      let (value, rest) ← readValue fuel rest
      let seen ← put? value key seen
      match ← skipAll rest with
      | ',' :: rest => readPairs fuel seen rest
      | '}' :: rest => some (seen, rest)
      | _ => none
end

/-- A document up to here: what it has built, and the header that is open. -/
structure Document where
  entries : Entries
  header : List String

namespace Document

def empty : Document := ⟨[], []⟩

/-- One line that holds something, and what follows it. -/
def readLine (doc : Document) (cs : Text) : Option (Document × Text) :=
  match cs with
  | '[' :: '[' :: rest => do
    let (key, rest) ← readKey rest.length rest
    match rest with
    | ']' :: ']' :: rest => do some (⟨← openItem? key doc.entries, key⟩, ← endLine rest)
    | _ => none
  | '[' :: rest => do
    let (key, rest) ← readKey rest.length rest
    match rest with
    | ']' :: rest => do some (⟨← openTable? key doc.entries, key⟩, ← endLine rest)
    | _ => none
  | cs => do
    let (key, rest) ← readKeyEquals cs
    let (value, rest) ← readValue (rest.length + 1) rest
    let entries ← within? (put? value key) doc.header doc.entries
    some ({ doc with entries }, ← endLine rest)

/-- All lines from here on. -/
def read : Nat → Document → Text → Option Document
  | 0, _, _ => none
  | fuel + 1, doc, cs => do
    match ← skipAll cs with
    | [] => some doc
    | cs => do
      let (doc, rest) ← doc.readLine cs
      read fuel doc rest

end Document

/-- The table that a whole text holds; a byte order mark may stand before it. -/
def parse? (text : Text) : Option Wire :=
  let body := match text with
    | c :: rest => if c = Text.byteOrderMark then rest else text
    | [] => []
  (Document.empty.read (body.length + 1) body).map fun doc =>
    .obj (sortMembers (entriesToWire doc.entries))

end ScriptLint.Toml
