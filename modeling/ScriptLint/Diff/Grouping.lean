import ScriptLint.Diff.Compaction

/-!
# Groups of changes

The stretches of a script as operations, where a removal and an addition that meet are one replacement,
and their division into groups. With the search for a script this makes the line differ that the program
is run with. What is proved of diffs holds of any differ.
-/

namespace ScriptLint.Diff

namespace Op

def ofStretch (s : Stretch) : Op :=
  match s.fate with
  | .kept => equal s.oldAt s.newAt s.lines.length
  | .removed => delete s.oldAt s.lines.length s.newAt
  | .added => insert s.oldAt s.newAt s.lines.length

/-- An operation and one of the same kind that follows it. The old number is that of the first removal
and the new one that of the first addition. -/
def join? : Op → Op → Option Op
  | equal oldAt newAt count, equal _ _ more => some (equal oldAt newAt (count + more))
  | delete oldAt count newAt, delete _ more _ => some (delete oldAt (count + more) newAt)
  | delete oldAt oldCount _, insert _ newAt newCount => some (replace oldAt oldCount newAt newCount)
  | insert oldAt newAt count, insert _ _ more => some (insert oldAt newAt (count + more))
  | insert _ newAt newCount, delete oldAt oldCount _ => some (replace oldAt oldCount newAt newCount)
  | replace oldAt oldCount newAt newCount, delete _ more _ =>
    some (replace oldAt (oldCount + more) newAt newCount)
  | replace oldAt oldCount newAt newCount, insert _ _ more =>
    some (replace oldAt oldCount newAt (newCount + more))
  | _, _ => none

/-- Neighbouring operations of a kind as one each, from one that is still open on. -/
def gather (op : Op) : List Op → List Op
  | [] => [op]
  | next :: ops =>
    match op.join? next with
    | some op => gather op ops
    | none => op :: gather next ops

def gatherAll : List Op → List Op
  | [] => []
  | op :: ops => gather op ops

/-- The first lines of an operation that are equal. -/
def takeEqual (count : Nat) : Op → Op
  | equal oldAt newAt whole => equal oldAt newAt (min count whole)
  | op => op

/-- The last lines of an operation that are equal. -/
def lastEqual (count : Nat) : Op → Op
  | equal oldAt newAt whole =>
    equal (oldAt + (whole - count)) (newAt + (whole - count)) (min count whole)
  | op => op

/-- The first operation with only its last equal lines. -/
def trimFront (context : Nat) : List Op → List Op
  | [] => []
  | op :: ops => op.lastEqual context :: ops

/-- The last operation with only its first equal lines. -/
def trimBack (context : Nat) : List Op → List Op
  | [] => []
  | [op] => [op.takeEqual context]
  | op :: ops => op :: trimBack context ops

/-- Cuts operations where more lines are equal than two groups show; `seen` holds those of the open
group, last one first. A group without a change is left out. -/
def divide (context : Nat) (seen : List Op) : List Op → List (List Op)
  | [] => if seen.all isEqual then [] else [seen.reverse]
  | op :: ops =>
    if op.isEqual ∧ 2 * context < op.oldCount then
      (op.takeEqual context :: seen).reverse :: divide context [op.lastEqual context] ops
    else divide context (op :: seen) ops

end Op

instance : LineDiffer where
  ops old new := Op.gatherAll ((compact (Stretch.number 0 0 (script old new))).map Op.ofStretch)
  group context ops := Op.divide context [] (Op.trimBack context (Op.trimFront context ops))

end ScriptLint.Diff
