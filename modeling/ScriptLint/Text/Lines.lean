import ScriptLint.Text.Class

/-!
# Lines and columns

A line ends at a line feed, at a carriage return, or at the two together, which count once. Lines
and columns are counted from 1; columns count characters.

* `LineTable.position` turns an offset into a line and a column;
* `LineTable.lineStart?` gives the offset at which a line starts;
* `Text.lines` cuts a text into lines with their ends, and loses nothing by `flatten_lines`.
-/

namespace ScriptLint

namespace Text

/-- A character put in front of the first line. -/
def consLine (c : Char) : List Text → List Text
  | [] => [[c]]
  | line :: lines => (c :: line) :: lines

/-- The lines of a text, each with the line end that closes it. -/
def lines : Text → List Text
  | [] => []
  | '\r' :: '\n' :: cs => ['\r', '\n'] :: lines cs
  | c :: cs => if isLineBreak c then [c] :: lines cs else consLine c (lines cs)

theorem flatten_consLine (c : Char) (ls : List Text) : (consLine c ls).flatten = c :: ls.flatten := by
  cases ls <;> simp [consLine]

theorem flatten_lines (t : Text) : (lines t).flatten = t := by
  fun_induction lines t with
  | case1 => rfl
  | case2 cs ih => simp [ih]
  | case3 c cs _ _ ih => simp [ih]
  | case4 c cs _ _ ih => simp [flatten_consLine, ih]

end Text

structure Position where
  line : Nat
  column : Nat
  deriving DecidableEq, Repr

/-- Where the lines of a text start, in ascending order, and the size of the text. -/
structure LineTable where
  starts : List Nat
  size : Nat
  deriving DecidableEq, Repr

namespace LineTable

/-- The offsets just behind the line ends of a text that starts at `offset`. -/
def startsFrom (offset : Nat) : Text → List Nat
  | '\r' :: '\n' :: cs => (offset + 2) :: startsFrom (offset + 2) cs
  | c :: cs =>
    if Text.isLineBreak c then (offset + 1) :: startsFrom (offset + 1) cs
    else startsFrom (offset + c.utf8Size) cs
  | [] => []

def ofText (text : Text) : LineTable := ⟨0 :: startsFrom 0 text, Text.size text⟩

def count (table : LineTable) : Nat := table.starts.length

/-- The starts of the lines up to the one that holds an offset. -/
def startsUpTo (table : LineTable) (offset : Nat) : List Nat :=
  table.starts.takeWhile fun start => start ≤ offset

/-- The place of an offset; one past the end counts as the end. The text is asked for the characters
of the line. If it has no such stretch, each byte counts as one character. -/
def position (table : LineTable) (text : Text) (offset : Nat) : Position :=
  let offset := min offset table.size
  let starts := table.startsUpTo offset
  let start := starts.getLast?.getD 0
  let before := ((Text.slice? text start offset).map List.length).getD (offset - start)
  ⟨starts.length, before + 1⟩

def lineStart? (table : LineTable) (line : Nat) : Option Nat :=
  match line with
  | 0 => none
  | line + 1 => table.starts[line]?

end LineTable

end ScriptLint
