import ScriptLint.Text.Class

/-!
# Message templates

A placeholder is a name between double braces, with white space around it if one likes. The name
holds neither braces nor white space. A placeholder whose name is known is replaced by its value as
it stands; nothing inside a value is looked at again.
-/

namespace ScriptLint.Template

/-- A placeholder at the front of a text: its name, and the text from its beginning on. -/
structure Placeholder where
  name : Text
  written : Text
  deriving DecidableEq, Repr

def isNameChar (c : Char) : Bool := c != '{' && c != '}' && ! Text.isSpace c

/-- What follows the opening braces, if it is a placeholder. -/
def afterBraces? (cs : Text) : Option Placeholder :=
  let open₁ := cs.takeWhile Text.isSpace
  let cs₁ := cs.dropWhile Text.isSpace
  let name := cs₁.takeWhile isNameChar
  let cs₂ := cs₁.dropWhile isNameChar
  let close := cs₂.takeWhile Text.isSpace
  match name, cs₂.dropWhile Text.isSpace with
  | _ :: _, '}' :: '}' :: _ => some ⟨name, open₁ ++ name ++ close ++ ['}', '}']⟩
  | _, _ => none

/-- The placeholder that a text starts with, if it starts with one. -/
def placeholder? : Text → Option Placeholder
  | '{' :: '{' :: cs => (afterBraces? cs).map fun p => ⟨p.name, '{' :: '{' :: p.written⟩
  | _ => none

/-- The values of placeholders, by name; of equal names the last one counts. -/
abbrev Data := List (String × String)

def value? (data : Data) (name : Text) : Option Text :=
  (data.reverse.lookup (String.ofList name)).map String.toList

/-- Fills the placeholders of a text; `skip` characters belong to the placeholder before it. -/
def fill (data : Data) : (skip : Nat) → Text → Text
  | _, [] => []
  | skip + 1, _ :: cs => fill data skip cs
  | 0, c :: cs =>
    match placeholder? (c :: cs) with
    | some p => (value? data p.name).getD p.written ++ fill data (p.written.length - 1) cs
    | none => c :: fill data 0 cs

def render (template : String) (data : Data) : String := String.ofList (fill data 0 template.toList)

end ScriptLint.Template
