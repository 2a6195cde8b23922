import ScriptLint.Text.Basic
import ScriptLint.Text.Class
import ScriptLint.Text.Hidden

/-!
# Quoted texts

A text between double quotes for listings: every character that would not show is escaped.
-/

namespace ScriptLint.Text

def isHidden (c : Char) : Bool := inRanges hiddenRanges c

/-- How a character is written in a listing. -/
def listed (c : Char) : List Char :=
  if c = '\t' then ['\\', 't']
  else if c = '\n' then ['\\', 'n']
  else if c = '\r' then ['\\', 'r']
  else if c = '"' then ['\\', '"']
  else if c = '\\' then ['\\', '\\']
  else if c = Char.ofNat 0 then ['\\', '0']
  else if isHidden c then '\\' :: 'u' :: '{' :: (Nat.toDigits 16 c.toNat ++ ['}'])
  else [c]

def quoted (t : Text) : String := String.ofList ('"' :: (t.flatMap listed ++ ['"']))

end ScriptLint.Text
