import ScriptLint.Diff.Grouping

/-!
# Unified diffs

The changes from one text to another as hunks: groups of changes with up to three equal lines around
them, each under a header with the numbers of its lines. Which changes these are is left to a line
differ. A diff fails if the differ gives a group of nothing, or names a line that is not there
(`unified?`).
-/

namespace ScriptLint.Diff

/-- The equal lines around a change. -/
def context : Nat := 3

/-- The names of the two texts. -/
def heading (label : String) : Text := ("--- " ++ label ++ "\n+++ " ++ label ++ " (fixed)\n").toList

/-- The first line numbers of a hunk, from 1, and its numbers of lines. -/
def header (oldAt oldCount newAt newCount : Nat) : Text :=
  ("@@ -" ++ toString (oldAt + 1) ++ "," ++ toString oldCount ++ " +" ++ toString (newAt + 1) ++ "," ++
    toString newCount ++ " @@\n").toList

def mark : Fate → Char
  | .kept => ' '
  | .removed => '-'
  | .added => '+'

/-- A line behind its mark; a line end is added if there is none. -/
def listRow (row : Row) : Text :=
  if row.2.getLast? = some '\n' then mark row.1 :: row.2 else mark row.1 :: (row.2 ++ ['\n'])

/-- The sum of a count over all operations. -/
def total (count : Op → Nat) (ops : List Op) : Nat := ops.foldr (fun op sum => count op + sum) 0

/-- The listing of a group. Its first operation tells where it starts. -/
def hunk? (old new : List Text) (group : List Op) : Option Text := do
  let first ← group.head?
  let rows ← group.mapM (Op.rows? old new)
  let counts := header first.oldAt (total Op.oldCount group) first.newAt (total Op.newCount group)
  pure (counts ++ rows.flatten.flatMap listRow)

section
variable [LineDiffer]

/-- The listing of all changes, empty if there are none. -/
def unified? (old new : Text) (label : String) : Option Text :=
  if old = new then some []
  else do
    let oldLines := Text.lines old
    let newLines := Text.lines new
    let groups := LineDiffer.group context (LineDiffer.ops oldLines newLines)
    let hunks ← groups.mapM (hunk? oldLines newLines)
    pure (heading label ++ hunks.flatten)

def unified (old new : Text) (label : String) : Text := (unified? old new label).getD []

end

end ScriptLint.Diff
