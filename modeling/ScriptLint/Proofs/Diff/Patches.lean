import ScriptLint.Diff.Unified

/-!
# Patches

A patch is told apart from any search for changes: hunks of rows, each of them kept, removed or added,
that turn one list of lines into another (`Patches`).
-/

namespace ScriptLint.Diff

/-- The lines that some rows keep or remove. -/
def oldLines (rows : List Row) : List Text := (rows.filter fun row => row.1 ≠ .added).map Prod.snd

/-- The lines that some rows keep or add. -/
def newLines (rows : List Row) : List Text := (rows.filter fun row => row.1 ≠ .removed).map Prod.snd

section
variable (rows more : List Row) (lines : List Text)

@[simp] theorem oldLines_append : oldLines (rows ++ more) = oldLines rows ++ oldLines more := by
  simp [oldLines]

@[simp] theorem newLines_append : newLines (rows ++ more) = newLines rows ++ newLines more := by
  simp [newLines]

@[simp] theorem oldLines_map (fate : Fate) :
    oldLines (lines.map (fate, ·)) = if fate = .added then [] else lines := by
  cases fate <;> simp [oldLines, List.filter_map, Function.comp_def]

@[simp] theorem newLines_map (fate : Fate) :
    newLines (lines.map (fate, ·)) = if fate = .removed then [] else lines := by
  cases fate <;> simp [newLines, List.filter_map, Function.comp_def]

variable {rows} in
theorem mem_lines_of_mem {row : Row} (mem : row ∈ rows) :
    row.2 ∈ oldLines rows ∨ row.2 ∈ newLines rows := by
  by_cases added : row.1 = .added
  · right
    exact List.mem_map_of_mem (List.mem_filter.2 ⟨mem, by simp [added]⟩)
  · left
    exact List.mem_map_of_mem (List.mem_filter.2 ⟨mem, by simp [added]⟩)

end

/-- A hunk of a patch: the numbers of the old and the new line that it starts at, and its rows. -/
structure PatchHunk where
  oldAt : Nat
  newAt : Nat
  rows : List Row
  deriving DecidableEq, Repr

namespace PatchHunk

def renderRow : Row → Text
  | (.kept, line) => ' ' :: line
  | (.removed, line) => '-' :: line
  | (.added, line) => '+' :: line

/-- The hunk in a unified diff. The header counts lines from 1, and tells how many of them there are. -/
def render (h : PatchHunk) : Text :=
  ("@@ -" ++ toString (h.oldAt + 1) ++ "," ++ toString (oldLines h.rows).length ++ " +" ++
    toString (h.newAt + 1) ++ "," ++ toString (newLines h.rows).length ++ " @@\n").toList ++
    h.rows.flatMap renderRow

end PatchHunk

/-- Whether hunks turn some lines into others, from two lines on. Each of them comes behind the one
before it, with lines between them that it skips, has the old lines where it says they are, and puts
the new ones where it says they will be. -/
inductive Patches : (oldAt newAt : Nat) → List PatchHunk → (old new : List Text) → Prop where
  | rest (oldAt newAt : Nat) (lines : List Text) : Patches oldAt newAt [] lines lines
  | hunk {oldAt newAt : Nat} {h : PatchHunk} {hs : List PatchHunk} {old new : List Text}
      (skipped : List Text) (oldStart : h.oldAt = oldAt + skipped.length)
      (newStart : h.newAt = newAt + skipped.length)
      (later : Patches (h.oldAt + (oldLines h.rows).length) (h.newAt + (newLines h.rows).length) hs
        old new) :
      Patches oldAt newAt (h :: hs) (skipped ++ oldLines h.rows ++ old)
        (skipped ++ newLines h.rows ++ new)

theorem Patches.eq_of_nil {oldAt newAt : Nat} {old new : List Text}
    (patches : Patches oldAt newAt [] old new) : old = new := by
  cases patches
  rfl

end ScriptLint.Diff
