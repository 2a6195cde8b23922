import ScriptLint.Text.Lines

/-!
# Line operations

What a line differ says of two lists of lines: operations, each of them on a stretch of old and a
stretch of new lines, which it names by their numbers. The differ itself is a parameter (`LineDiffer`). A
diff looks the lines up by their numbers, and fails at a number that has no line.
-/

namespace ScriptLint.Diff

/-- What becomes of a line. -/
inductive Fate where
  | kept
  | removed
  | added
  deriving DecidableEq, Repr

/-- A line and what becomes of it. -/
abbrev Row := Fate × Text

inductive Op where
  | equal (oldAt newAt count : Nat)
  | delete (oldAt oldCount newAt : Nat)
  | insert (oldAt newAt newCount : Nat)
  | replace (oldAt oldCount newAt newCount : Nat)
  deriving DecidableEq, Repr

/-- A search for the changes between two lists of lines, and the division of its operations into groups,
with up to so many equal lines around the changes of each. -/
class LineDiffer where
  ops : (old new : List Text) → List Op
  group : (context : Nat) → List Op → List (List Op)

/-- So many lines from a number on. -/
def linesFrom? (lines : List Text) (start : Nat) : (count : Nat) → Option (List Text)
  | 0 => some []
  | count + 1 => do
    let line ← lines[start]?
    let more ← linesFrom? lines (start + 1) count
    pure (line :: more)

namespace Op

def isEqual : Op → Bool
  | equal .. => true
  | delete .. | insert .. | replace .. => false

def oldAt : Op → Nat
  | equal oldAt .. | delete oldAt .. | insert oldAt .. | replace oldAt .. => oldAt

def newAt : Op → Nat
  | equal _ newAt _ | delete _ _ newAt | insert _ newAt _ | replace _ _ newAt _ => newAt

def oldCount : Op → Nat
  | equal _ _ count => count
  | delete _ oldCount _ | replace _ oldCount _ _ => oldCount
  | insert .. => 0

def newCount : Op → Nat
  | equal _ _ count => count
  | insert _ _ newCount | replace _ _ _ newCount => newCount
  | delete .. => 0

/-- The lines of an operation: equal ones are looked up among the old lines, and of a replacement all
removals come first. -/
def rows? (old new : List Text) : Op → Option (List Row)
  | equal oldAt _ count => do
    let lines ← linesFrom? old oldAt count
    pure (lines.map (.kept, ·))
  | delete oldAt oldCount _ => do
    let lines ← linesFrom? old oldAt oldCount
    pure (lines.map (.removed, ·))
  | insert _ newAt newCount => do
    let lines ← linesFrom? new newAt newCount
    pure (lines.map (.added, ·))
  | replace oldAt oldCount newAt newCount => do
    let removed ← linesFrom? old oldAt oldCount
    let added ← linesFrom? new newAt newCount
    pure (removed.map (.removed, ·) ++ added.map (.added, ·))

end Op

end ScriptLint.Diff
