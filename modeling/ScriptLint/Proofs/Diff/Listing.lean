import Mathlib.Data.List.Basic
import ScriptLint.Proofs.Diff.Patches

/-!
# The listing of a diff

Whatever line differ is used, a unified diff is a patch from one text to the other (`unified_patches`)
if the operations cover both lists of lines one behind the other, those of equal lines pair lines that
are equal, and the groups leave out equal lines alone (`LineDiffer.Sound`). Operations that cover a
stretch of both lists have rows for it (`Contiguous.exists_rows`), so a group makes a hunk
(`exists_hunk`), and what lies between two groups is skipped (`Contiguous.exists_shared`).
-/

namespace ScriptLint.Diff

namespace Op

/-- Whether operations come one behind the other, from an old and a new line on to the ends. -/
def Contiguous : (oldAt newAt : Nat) → List Op → (oldEnd newEnd : Nat) → Prop
  | oldAt, newAt, [], oldEnd, newEnd => oldAt = oldEnd ∧ newAt = newEnd
  | oldAt, newAt, op :: ops, oldEnd, newEnd => op.oldAt = oldAt ∧ op.newAt = newAt ∧
      Contiguous (oldAt + op.oldCount) (newAt + op.newCount) ops oldEnd newEnd

/-- Whether an operation of equal lines pairs lines that are equal. -/
def Pairs (old new : List Text) (op : Op) : Prop :=
  op.isEqual = true → ∀ i < op.oldCount, old[op.oldAt + i]? = new[op.newAt + i]?

/-- Whether operations are others some of which, of equal lines, are cut apart. -/
inductive Cut : (ops parts : List Op) → Prop where
  | nil : Cut [] []
  | whole (op : Op) {ops parts : List Op} (later : Cut ops parts) : Cut (op :: ops) (op :: parts)
  | apart {oldAt newAt : Nat} (front back : Nat) {ops parts : List Op}
      (later : Cut (equal (oldAt + front) (newAt + front) back :: ops) parts) :
      Cut (equal oldAt newAt (front + back) :: ops) (equal oldAt newAt front :: parts)

/-- Whether groups are stretches of operations, in their order, that leave out equal lines alone. -/
inductive Grouped : (ops : List Op) → (groups : List (List Op)) → Prop where
  | rest {ops : List Op} (equal : ∀ op ∈ ops, op.isEqual = true) : Grouped ops []
  | group (skipped group : List Op) {ops : List Op} {groups : List (List Op)}
      (equal : ∀ op ∈ skipped, op.isEqual = true) (later : Grouped ops groups) :
      Grouped (skipped ++ (group ++ ops)) (group :: groups)

end Op

/-- What a diff relies on, of the differ, for two lists of lines. A group is there for a change, so none
of them is empty. -/
structure LineDiffer.Sound [LineDiffer] (old new : List Text) : Prop where
  covers : Op.Contiguous 0 0 (ops old new) old.length new.length
  pairs : ∀ op ∈ ops old new, op.Pairs old new
  grouped : ∃ parts, Op.Cut (ops old new) parts ∧ Op.Grouped parts (group context (ops old new))
  filled : [] ∉ group context (ops old new)

/-! ## Lines by their numbers -/

section
variable {lines old new : List Text} {start count : Nat}

theorem exists_linesFrom? (bound : start + count ≤ lines.length) : ∃ found,
    linesFrom? lines start count = some found ∧ found.length = count ∧
      lines.drop start = found ++ lines.drop (start + count) := by
  induction count generalizing start with
  | zero => exact ⟨[], rfl, rfl, rfl⟩
  | succ count ih =>
    have inside : start < lines.length := by omega
    obtain ⟨found, looked, length, whole⟩ := @ih (start + 1) (by omega)
    refine ⟨lines[start] :: found, ?_, congrArg (· + 1) length, ?_⟩
    · simp [linesFrom?, looked, List.getElem?_eq_getElem inside]
    · rw [List.drop_eq_getElem_cons inside, whole, Nat.add_right_comm]
      rfl

theorem linesFrom?_congr {oldAt newAt : Nat} (same : ∀ i < count, old[oldAt + i]? = new[newAt + i]?) :
    linesFrom? old oldAt count = linesFrom? new newAt count := by
  induction count generalizing oldAt newAt with
  | zero => rfl
  | succ count ih =>
    have later : linesFrom? old (oldAt + 1) count = linesFrom? new (newAt + 1) count := by
      apply ih
      intro i less
      have := same (i + 1) (by omega)
      rwa [Nat.add_comm i, ← Nat.add_assoc, ← Nat.add_assoc] at this
    have first : old[oldAt]? = new[newAt]? := same 0 (by omega)
    rw [linesFrom?, linesFrom?, first, later]

end

/-! ## What operations list -/

/-- Whether rows list a stretch of old and a stretch of new lines. -/
structure Spans (old new : List Text) (oldAt newAt : Nat) (rows : List Row) (oldEnd newEnd : Nat) :
    Prop where
  oldEnd_eq : oldEnd = oldAt + (oldLines rows).length
  newEnd_eq : newEnd = newAt + (newLines rows).length
  drop_old : old.drop oldAt = oldLines rows ++ old.drop oldEnd
  drop_new : new.drop newAt = newLines rows ++ new.drop newEnd

section
variable {old new : List Text} {oldAt newAt oldMid newMid oldEnd newEnd : Nat} {op : Op}
  {ops parts group : List Op} {groups : List (List Op)}

theorem Spans.nil : Spans old new oldAt newAt [] oldAt newAt := ⟨rfl, rfl, rfl, rfl⟩

theorem Spans.append {rows more : List Row} (spans : Spans old new oldAt newAt rows oldMid newMid)
    (spans' : Spans old new oldMid newMid more oldEnd newEnd) :
    Spans old new oldAt newAt (rows ++ more) oldEnd newEnd where
  oldEnd_eq := by
    rw [spans'.oldEnd_eq, spans.oldEnd_eq, oldLines_append, List.length_append, Nat.add_assoc]
  newEnd_eq := by
    rw [spans'.newEnd_eq, spans.newEnd_eq, newLines_append, List.length_append, Nat.add_assoc]
  drop_old := by rw [spans.drop_old, spans'.drop_old, oldLines_append, List.append_assoc]
  drop_new := by rw [spans.drop_new, spans'.drop_new, newLines_append, List.append_assoc]

/-- A line that is listed is one of those of the two texts. -/
theorem Spans.mem_lines {rows : List Row} (spans : Spans old new oldAt newAt rows oldEnd newEnd)
    {row : Row} (mem : row ∈ rows) : row.2 ∈ old ∨ row.2 ∈ new := by
  rcases mem_lines_of_mem mem with there | there
  · left
    have inside : row.2 ∈ old.drop oldAt := by rw [spans.drop_old]; simp [there]
    exact List.mem_of_mem_drop inside
  · right
    have inside : row.2 ∈ new.drop newAt := by rw [spans.drop_new]; simp [there]
    exact List.mem_of_mem_drop inside

namespace Op

/-- Where there are lines, an operation has rows for them. -/
theorem exists_rows (pairs : op.Pairs old new) (oldBound : op.oldAt + op.oldCount ≤ old.length)
    (newBound : op.newAt + op.newCount ≤ new.length) : ∃ rows, op.rows? old new = some rows ∧
      (op.isEqual = true → newLines rows = oldLines rows) ∧
      Spans old new op.oldAt op.newAt rows (op.oldAt + op.oldCount) (op.newAt + op.newCount) := by
  cases op <;> dsimp only [oldAt, newAt, oldCount, newCount] at oldBound newBound ⊢
  case equal start start' count =>
    obtain ⟨lines, found, rfl, inOld⟩ := exists_linesFrom? oldBound
    obtain ⟨lines', found', -, inNew⟩ := exists_linesFrom? newBound
    have same : linesFrom? old start _ = linesFrom? new start' _ := linesFrom?_congr (pairs rfl)
    obtain rfl : lines = lines' := Option.some.inj (found.symm.trans (same.trans found'))
    refine ⟨lines.map (.kept, ·), by simp [rows?, found], by simp, ?_⟩
    constructor <;> simp [inOld, inNew]
  case delete start count start' =>
    obtain ⟨lines, found, rfl, inOld⟩ := exists_linesFrom? oldBound
    refine ⟨lines.map (.removed, ·), by simp [rows?, found], nofun, ?_⟩
    constructor <;> simp [inOld]
  case insert start start' count =>
    obtain ⟨lines, found, rfl, inNew⟩ := exists_linesFrom? newBound
    refine ⟨lines.map (.added, ·), by simp [rows?, found], nofun, ?_⟩
    constructor <;> simp [inNew]
  case replace start count start' count' =>
    obtain ⟨lines, found, rfl, inOld⟩ := exists_linesFrom? oldBound
    obtain ⟨lines', found', rfl, inNew⟩ := exists_linesFrom? newBound
    refine ⟨lines.map (.removed, ·) ++ lines'.map (.added, ·), by simp [rows?, found, found'], nofun, ?_⟩
    constructor <;> simp [inOld, inNew]

namespace Contiguous

theorem le (contiguous : Contiguous oldAt newAt ops oldEnd newEnd) :
    oldAt ≤ oldEnd ∧ newAt ≤ newEnd := by
  induction ops generalizing oldAt newAt with
  | nil => exact ⟨Nat.le_of_eq contiguous.1, Nat.le_of_eq contiguous.2⟩
  | cons op ops ih =>
    have := ih contiguous.2.2
    omega

theorem append : Contiguous oldAt newAt (ops ++ parts) oldEnd newEnd ↔ ∃ oldMid newMid,
    Contiguous oldAt newAt ops oldMid newMid ∧ Contiguous oldMid newMid parts oldEnd newEnd := by
  induction ops generalizing oldAt newAt with
  | nil => simp [Contiguous, and_assoc]
  | cons op ops ih => simp [Contiguous, ih, and_assoc]

/-- Where operations end is told by how many lines they have. -/
theorem ends (contiguous : Contiguous oldAt newAt ops oldEnd newEnd) :
    oldEnd = oldAt + total oldCount ops ∧ newEnd = newAt + total newCount ops := by
  induction ops generalizing oldAt newAt with
  | nil => exact ⟨contiguous.1.symm, contiguous.2.symm⟩
  | cons op ops ih =>
    have := ih contiguous.2.2
    simp only [total, List.foldr_cons] at this ⊢
    omega

theorem exists_rows (contiguous : Contiguous oldAt newAt ops oldEnd newEnd)
    (pairs : ∀ op ∈ ops, op.Pairs old new) (oldBound : oldEnd ≤ old.length)
    (newBound : newEnd ≤ new.length) : ∃ rows, ops.mapM (Op.rows? old new) = some rows ∧
      ((∀ op ∈ ops, op.isEqual = true) → newLines rows.flatten = oldLines rows.flatten) ∧
      Spans old new oldAt newAt rows.flatten oldEnd newEnd := by
  induction ops generalizing oldAt newAt with
  | nil =>
    obtain ⟨rfl, rfl⟩ := contiguous
    exact ⟨[], rfl, fun _ => rfl, .nil⟩
  | cons op ops ih =>
    obtain ⟨rfl, rfl, contiguous⟩ := contiguous
    obtain ⟨first, pairs⟩ := List.forall_mem_cons.1 pairs
    have := contiguous.le
    obtain ⟨rows, found, same, spans⟩ := Op.exists_rows first (by omega) (by omega)
    obtain ⟨more, found', same', spans'⟩ := ih contiguous pairs
    refine ⟨rows :: more, by simp [List.mapM_cons, found, found'], ?_, spans.append spans'⟩
    intro equal
    obtain ⟨isEqual, equal⟩ := List.forall_mem_cons.1 equal
    rw [List.flatten_cons, newLines_append, oldLines_append, same isEqual, same' equal]

/-- Operations of equal lines alone list the same lines of both texts. -/
theorem exists_shared (contiguous : Contiguous oldAt newAt ops oldEnd newEnd)
    (equal : ∀ op ∈ ops, op.isEqual = true) (pairs : ∀ op ∈ ops, op.Pairs old new)
    (oldBound : oldEnd ≤ old.length) (newBound : newEnd ≤ new.length) : ∃ lines,
      oldEnd = oldAt + lines.length ∧ newEnd = newAt + lines.length ∧
      old.drop oldAt = lines ++ old.drop oldEnd ∧ new.drop newAt = lines ++ new.drop newEnd := by
  obtain ⟨rows, -, same, spans⟩ := contiguous.exists_rows pairs oldBound newBound
  refine ⟨oldLines rows.flatten, spans.oldEnd_eq, ?_, spans.drop_old, ?_⟩
  · rw [← same equal]
    exact spans.newEnd_eq
  · rw [← same equal]
    exact spans.drop_new

end Contiguous

/-- Cutting equal lines apart leaves operations one behind the other. -/
theorem Cut.contiguous (cut : Cut ops parts) (contiguous : Contiguous oldAt newAt ops oldEnd newEnd) :
    Contiguous oldAt newAt parts oldEnd newEnd := by
  induction cut generalizing oldAt newAt with
  | nil => exact contiguous
  | whole op later ih => exact ⟨contiguous.1, contiguous.2.1, ih contiguous.2.2⟩
  | apart front back later ih =>
    obtain ⟨rfl, rfl, contiguous⟩ := contiguous
    refine ⟨rfl, rfl, ih ⟨rfl, rfl, ?_⟩⟩
    simpa only [Op.oldAt, Op.newAt, oldCount, newCount, Nat.add_assoc] using contiguous

/-- Both parts of equal lines that are cut apart are equal. -/
theorem Pairs.apart {front back : Nat} (pairs : (equal oldAt newAt (front + back)).Pairs old new) :
    (equal oldAt newAt front).Pairs old new ∧
      (equal (oldAt + front) (newAt + front) back).Pairs old new := by
  have same : ∀ i < front + back, old[oldAt + i]? = new[newAt + i]? := pairs rfl
  constructor
  · intro _ i less
    exact same i (Nat.lt_of_lt_of_le less (Nat.le_add_right front back))
  · intro _ i less
    have there := same (front + i) (Nat.add_lt_add_left less front)
    rwa [← Nat.add_assoc, ← Nat.add_assoc] at there

theorem Cut.pairs (cut : Cut ops parts) (pairs : ∀ op ∈ ops, op.Pairs old new) :
    ∀ op ∈ parts, op.Pairs old new := by
  induction cut with
  | nil => exact pairs
  | whole op later ih =>
    obtain ⟨first, pairs⟩ := List.forall_mem_cons.1 pairs
    exact List.forall_mem_cons.2 ⟨first, ih pairs⟩
  | apart front back later ih =>
    obtain ⟨first, pairs⟩ := List.forall_mem_cons.1 pairs
    obtain ⟨shown, behind⟩ := first.apart
    exact List.forall_mem_cons.2 ⟨shown, ih (List.forall_mem_cons.2 ⟨behind, pairs⟩)⟩

end Op

/-! ## Groups as hunks -/

theorem flatMap_listRow {rows : List Row} (ended : ∀ row ∈ rows, row.2.getLast? = some '\n') :
    rows.flatMap listRow = rows.flatMap PatchHunk.renderRow := by
  apply List.flatMap_congr
  rintro ⟨fate, line⟩ mem
  rw [listRow, if_pos (ended _ mem)]
  cases fate <;> rfl

variable (ended : ∀ line ∈ old, line.getLast? = some '\n')
  (ended' : ∀ line ∈ new, line.getLast? = some '\n')
include ended ended'

/-- A group is listed as a hunk that starts where it does. -/
theorem exists_hunk (filled : group ≠ [])
    (contiguous : Op.Contiguous oldAt newAt group oldEnd newEnd)
    (pairs : ∀ op ∈ group, op.Pairs old new) (oldBound : oldEnd ≤ old.length)
    (newBound : newEnd ≤ new.length) : ∃ rows,
      hunk? old new group = some (PatchHunk.render ⟨oldAt, newAt, rows⟩) ∧
        Spans old new oldAt newAt rows oldEnd newEnd := by
  obtain ⟨rows, found, -, spans⟩ := contiguous.exists_rows pairs oldBound newBound
  obtain ⟨first, later, rfl⟩ := List.exists_cons_of_ne_nil filled
  have listed : rows.flatten.flatMap listRow = rows.flatten.flatMap PatchHunk.renderRow :=
    flatMap_listRow fun row mem => (spans.mem_lines mem).elim (ended _) (ended' _)
  have oldSum : total Op.oldCount (first :: later) = (oldLines rows.flatten).length := by
    have := contiguous.ends.1
    have := spans.oldEnd_eq
    omega
  have newSum : total Op.newCount (first :: later) = (newLines rows.flatten).length := by
    have := contiguous.ends.2
    have := spans.newEnd_eq
    omega
  refine ⟨rows.flatten, ?_, spans⟩
  simp only [hunk?, found, listed, oldSum, newSum, Option.bind_eq_bind, Option.bind_some,
    List.head?_cons, contiguous.1, contiguous.2.1]
  rfl

/-- Groups that leave out equal lines alone are listed as a patch. -/
theorem exists_patch (grouped : Op.Grouped ops groups) (filled : [] ∉ groups)
    (contiguous : Op.Contiguous oldAt newAt ops old.length new.length)
    (pairs : ∀ op ∈ ops, op.Pairs old new) : ∃ hs,
      groups.mapM (hunk? old new) = some (hs.map PatchHunk.render) ∧
        Patches oldAt newAt hs (old.drop oldAt) (new.drop newAt) := by
  induction grouped generalizing oldAt newAt with
  | rest equal =>
    obtain ⟨lines, -, -, inOld, inNew⟩ :=
      contiguous.exists_shared equal pairs (Nat.le_refl _) (Nat.le_refl _)
    rw [List.drop_length] at inOld inNew
    rw [inOld, inNew]
    exact ⟨[], rfl, .rest _ _ _⟩
  | group skipped group equal later ih =>
    rw [List.mem_cons, not_or] at filled
    obtain ⟨filled, filledLater⟩ := filled
    obtain ⟨pairsSkipped, pairs⟩ := List.forall_mem_append.1 pairs
    obtain ⟨pairsGroup, pairsLater⟩ := List.forall_mem_append.1 pairs
    obtain ⟨oldStart, newStart, before, contiguous⟩ := Op.Contiguous.append.1 contiguous
    obtain ⟨oldEnd, newEnd, within, behind⟩ := Op.Contiguous.append.1 contiguous
    have := within.le
    have := behind.le
    obtain ⟨lines, oldStart_eq, newStart_eq, inOld, inNew⟩ :=
      before.exists_shared equal pairsSkipped (by omega) (by omega)
    obtain ⟨rows, listed, spans⟩ :=
      exists_hunk ended ended' (Ne.symm filled) within pairsGroup (by omega) (by omega)
    obtain ⟨hs, listedLater, patches⟩ := ih filledLater behind pairsLater
    refine ⟨⟨oldStart, newStart, rows⟩ :: hs, by simp [List.mapM_cons, listed, listedLater], ?_⟩
    rw [spans.oldEnd_eq, spans.newEnd_eq] at patches
    have whole := Patches.hunk (h := ⟨oldStart, newStart, rows⟩) lines oldStart_eq newStart_eq patches
    rw [List.append_assoc, List.append_assoc, ← spans.oldEnd_eq, ← spans.newEnd_eq, ← spans.drop_old,
      ← spans.drop_new, ← inOld, ← inNew] at whole
    exact whole

end

/-! ## Texts of whole lines -/

/-- Whether a text ends in a line feed, if it is not empty, and has no carriage return on its own. -/
structure Fed (t : Text) : Prop where
  last : ∀ c ∈ t.getLast?, c = '\n'
  carriage : ∀ front behind, t = front ++ '\r' :: behind → behind.head? = some '\n'

section
variable {t : Text} {c : Char}

theorem Fed.tail (fed : Fed (c :: t)) : Fed t where
  last := fun d mem => fed.last d (by simp_all [List.getLast?_cons])
  carriage := fun front behind eq => fed.carriage (c :: front) behind (by rw [eq]; rfl)

theorem fed_of_notMem (last : t.getLast? = some '\n') (none : '\r' ∉ t) : Fed t where
  last := fun _ mem => (Option.some.inj (last.symm.trans mem)).symm
  carriage := fun _ _ eq => absurd (by simp [eq]) none

theorem ended_lines (fed : Fed t) : ∀ line ∈ Text.lines t, line.getLast? = some '\n' := by
  fun_induction Text.lines t with
  | case1 => simp
  | case2 cs ih => exact List.forall_mem_cons.2 ⟨rfl, ih fed.tail.tail⟩
  | case3 c cs carriage lineBreak ih =>
    refine List.forall_mem_cons.2 ⟨?_, ih fed.tail⟩
    rcases (by simpa [Text.isLineBreak] using lineBreak : c = '\n' ∨ c = '\r') with rfl | rfl
    · rfl
    · obtain ⟨cs', rfl⟩ := List.head?_eq_some_iff.1 (fed.carriage [] cs rfl)
      exact absurd rfl (carriage cs' rfl)
  | case4 c cs _ plain ih =>
    have later := ih fed.tail
    cases whole : Text.lines cs with
    | nil =>
      have none : cs = [] := by rw [← Text.flatten_lines cs, whole]; rfl
      rw [none] at fed
      rw [fed.last c rfl] at plain
      exact absurd rfl plain
    | cons line lines =>
      rw [whole] at later
      obtain ⟨first, later⟩ := List.forall_mem_cons.1 later
      exact List.forall_mem_cons.2 ⟨by simp [List.getLast?_cons, first], later⟩

end

/-! ## The patch -/

section
variable [LineDiffer] {old new : Text}

theorem exists_unified (label : String) (fed : Fed old) (fed' : Fed new)
    (sound : LineDiffer.Sound (Text.lines old) (Text.lines new)) (differ : old ≠ new) : ∃ h hs,
      unified? old new label = some (heading label ++ (h :: hs).flatMap PatchHunk.render) ∧
        Patches 0 0 (h :: hs) (Text.lines old) (Text.lines new) := by
  obtain ⟨parts, cut, grouped⟩ := sound.grouped
  obtain ⟨hs, listed, patches⟩ := exists_patch (ended_lines fed) (ended_lines fed') grouped sound.filled
    (cut.contiguous sound.covers) (cut.pairs sound.pairs)
  cases hs with
  | nil =>
    have same : Text.lines old = Text.lines new := patches.eq_of_nil
    rw [← Text.flatten_lines old, same, Text.flatten_lines] at differ
    exact absurd rfl differ
  | cons h hs =>
    refine ⟨h, hs, ?_, patches⟩
    simp only [unified?, if_neg differ, listed]
    rfl

/-- The unified diff of two texts of whole lines never fails if the differ is sound. It is empty if and
only if they are equal, and lists hunks otherwise that are a patch from one to the other, where the
numbers of each header tell where the hunk starts in the two texts and count its rows. -/
theorem unified_patches (old new : Text) (label : String) (fed : Fed old) (fed' : Fed new)
    (sound : LineDiffer.Sound (Text.lines old) (Text.lines new)) :
    unified? old new label = some (unified old new label) ∧
    (unified old new label = [] ↔ old = new) ∧
    (old ≠ new → ∃ h hs, unified old new label = heading label ++ (h :: hs).flatMap PatchHunk.render ∧
      Patches 0 0 (h :: hs) (Text.lines old) (Text.lines new)) := by
  by_cases same : old = new
  · have none : unified? old new label = some [] := if_pos same
    have none' : unified old new label = [] := by rw [unified, none]; rfl
    exact ⟨by rw [none, none'], iff_of_true none' same, fun differ => absurd same differ⟩
  · obtain ⟨h, hs, listed, patches⟩ := exists_unified label fed fed' sound same
    have listed' : unified old new label = heading label ++ (h :: hs).flatMap PatchHunk.render := by
      rw [unified, listed]
      rfl
    refine ⟨by rw [listed', listed], ?_, fun _ => ⟨h, hs, listed', patches⟩⟩
    simp [listed', heading, same]

end

/-! ## A diff of two hunks -/

/-- Nine lines, of which the first is to be replaced. -/
def nineLines : Text := "a;\n1;\n2;\n3;\n4;\n5;\n6;\n7;\nb;\n".toList

/-- The nine lines with another first one, and one more at the end. -/
def tenLines : Text := "c;\n1;\n2;\n3;\n4;\n5;\n6;\n7;\nb;\nd;\n".toList

theorem ops_nineLines : LineDiffer.ops (Text.lines nineLines) (Text.lines tenLines) =
    [.replace 0 1 0 1, .equal 1 1 8, .insert 9 9 1] := by
  decide +kernel

theorem group_nineLines : LineDiffer.group context [.replace 0 1 0 1, .equal 1 1 8, .insert 9 9 1] =
    [[.replace 0 1 0 1, .equal 1 1 3], [.equal 6 6 3, .insert 9 9 1]] := by
  decide +kernel

/-- Between the two hunks, two of the eight equal lines are left out. -/
theorem sound_nineLines : LineDiffer.Sound (Text.lines nineLines) (Text.lines tenLines) where
  covers := by
    rw [ops_nineLines]
    refine ⟨rfl, rfl, rfl, rfl, rfl, rfl, ?_, ?_⟩ <;> decide +kernel
  pairs := by
    rw [ops_nineLines]
    unfold Op.Pairs
    decide +kernel
  grouped := by
    rw [ops_nineLines, group_nineLines]
    refine ⟨[.replace 0 1 0 1, .equal 1 1 3, .equal 4 4 2, .equal 6 6 3, .insert 9 9 1], ?_, ?_⟩
    · have last : Op.Cut [.insert 9 9 1] [.insert 9 9 1] := .whole _ .nil
      have back : Op.Cut [.equal 4 4 5, .insert 9 9 1] [.equal 4 4 2, .equal 6 6 3, .insert 9 9 1] :=
        .apart 2 3 (.whole _ last)
      exact .whole _ (.apart 3 5 back)
    · have second : Op.Grouped [.equal 4 4 2, .equal 6 6 3, .insert 9 9 1]
          [[.equal 6 6 3, .insert 9 9 1]] :=
        .group [.equal 4 4 2] [.equal 6 6 3, .insert 9 9 1] (by decide) (.rest (by decide))
      exact .group [] [.replace 0 1 0 1, .equal 1 1 3] (by decide) second
  filled := by
    rw [ops_nineLines, group_nineLines]
    decide

theorem unified_patches_nineLines : Fed nineLines ∧ Fed tenLines ∧
    LineDiffer.Sound (Text.lines nineLines) (Text.lines tenLines) ∧
    ∃ h hs, unified nineLines tenLines "f.js" = heading "f.js" ++ (h :: hs).flatMap PatchHunk.render ∧
      Patches 0 0 (h :: hs) (Text.lines nineLines) (Text.lines tenLines) := by
  have fed : Fed nineLines := fed_of_notMem (by decide) (by decide)
  have fed' : Fed tenLines := fed_of_notMem (by decide) (by decide)
  have whole := unified_patches nineLines tenLines "f.js" fed fed' sound_nineLines
  exact ⟨fed, fed', sound_nineLines, whole.2.2 (by decide)⟩

end ScriptLint.Diff
