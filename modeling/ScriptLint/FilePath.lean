import ScriptLint.Text.Basic

/-!
# File paths

A path is kept as it is written and shown as it is written. Its meaning is a list of steps: empty
parts say nothing, and neither does a `.` that is not the first part.

* `le` orders paths by their steps;
* `join` goes on from a path, `parent?` goes back by one step;
* `extension?` is what follows the last point of the file name.
-/

namespace ScriptLint

structure FilePath where
  raw : Text
  deriving DecidableEq, Repr, Inhabited

namespace FilePath

def ofString (s : String) : FilePath := ⟨s.toList⟩

def toString (p : FilePath) : String := String.ofList p.raw

/-- The parts between the slashes. -/
def splitParts (raw : Text) : List Text := Text.splitAt '/' raw

def joinParts : List Text → Text
  | [] => []
  | [part] => part
  | part :: parts => part ++ '/' :: joinParts parts

def isAbsolute (p : FilePath) : Bool := p.raw.head? == some '/'

inductive Step where
  | root
  | here
  | up
  | name (text : Text)
  deriving DecidableEq, Repr

namespace Step

def rank : Step → Nat
  | root => 0
  | here => 1
  | up => 2
  | name _ => 3

def text : Step → Text
  | name text => text
  | _ => []

/-- The root comes first, then a leading point, then the way up, then names by their characters. -/
def compare (a b : Step) : Ordering :=
  (Ord.compare a.rank b.rank).then (compareOfLessAndEq a.text b.text)

end Step

/-- Whether a part behind the first one says nothing. -/
def isBlankPart (part : Text) : Bool := part == [] || part == ['.']

def Step.ofPart (part : Text) : Step := if part = ['.', '.'] then .up else .name part

/-- The meaning of a path. -/
def steps (p : FilePath) : List Step :=
  match splitParts p.raw with
  | [] => []
  | first :: rest =>
    let head :=
      if first = [] then (if p.isAbsolute then [Step.root] else [])
      else if first = ['.'] then [Step.here]
      else [Step.ofPart first]
    head ++ (rest.filter fun part => ! isBlankPart part).map Step.ofPart

def compareSteps : List Step → List Step → Ordering
  | [], [] => .eq
  | [], _ :: _ => .lt
  | _ :: _, [] => .gt
  | a :: as, b :: bs => (Step.compare a b).then (compareSteps as bs)

/-- Paths in the order of their steps. -/
def compare (a b : FilePath) : Ordering := compareSteps a.steps b.steps

/-- A path read from another one on; an absolute path stands for itself. -/
def join (base more : FilePath) : FilePath :=
  if more.isAbsolute then more
  else if base.raw = [] ∨ base.raw.getLast? = some '/' then ⟨base.raw ++ more.raw⟩
  else ⟨base.raw ++ '/' :: more.raw⟩

def trimBlank (parts : List Text) : List Text := (parts.reverse.dropWhile isBlankPart).reverse

/-- The path without its last step. -/
def parent? (p : FilePath) : Option FilePath :=
  match splitParts p.raw with
  | [] => none
  | first :: rest =>
    match trimBlank rest with
    | [] => if first = [] then none else some ⟨[]⟩
    | part :: parts =>
      let kept := trimBlank (part :: parts).dropLast
      some ⟨if first = [] ∧ kept = [] then ['/'] else joinParts (first :: kept)⟩

def fileName? (p : FilePath) : Option Text :=
  match p.steps.getLast? with
  | some (.name text) => some text
  | _ => none

/-- What follows the last point of the file name, if something stands before that point. -/
def extension? (p : FilePath) : Option Text :=
  p.fileName?.bind fun name =>
    let tail := name.reverse.takeWhile (· ≠ '.')
    if tail.length + 1 < name.length then some tail.reverse else none

end FilePath

end ScriptLint
