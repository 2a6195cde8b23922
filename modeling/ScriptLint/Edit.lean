import ScriptLint.Text.Basic

/-!
# Edits

An edit replaces a span of a text. Nothing forces the span of an edit to fit a text: `problem?` says
what is wrong with it.

* two edits overlap if they share a byte; edits that touch do not;
* `weave` puts edits in ascending order into a text;
* `merge` makes one edit of several that do not overlap.
-/

namespace ScriptLint

structure Edit where
  span : Span
  text : Text
  deriving DecidableEq, Repr

inductive EditProblem where
  | inverted (span : Span)
  | outOfBounds (span : Span) (size : Nat)
  | splitsCharacter (span : Span)
  | overlap
  deriving DecidableEq, Repr

namespace EditProblem

def message : EditProblem → String
  | .inverted span => "fix range " ++ span.render ++ " is inverted"
  | .outOfBounds span size =>
    "fix range " ++ span.render ++ " is out of bounds for source of length " ++ toString size
  | .splitsCharacter span =>
    "fix range " ++ span.render ++ " does not fall on character boundaries"
  | .overlap => "fixes of one report must not overlap"

end EditProblem

namespace Edit

def insert (offset : Nat) (text : Text) : Edit := ⟨⟨offset, offset⟩, text⟩

def insertBefore (span : Span) (text : Text) : Edit := insert span.start text

def insertAfter (span : Span) (text : Text) : Edit := insert span.stop text

def replace (span : Span) (text : Text) : Edit := ⟨span, text⟩

def remove (span : Span) : Edit := ⟨span, []⟩

def isInsertion (e : Edit) : Bool := e.span.stop ≤ e.span.start

def overlaps (a b : Edit) : Bool :=
  a.span.start < b.span.stop && b.span.start < a.span.stop

/-- What keeps an edit from being made to a text. -/
def problem? (source : Text) (e : Edit) : Option EditProblem :=
  if e.span.stop < e.span.start then some (.inverted e.span)
  else if Text.size source < e.span.stop then some (.outOfBounds e.span (Text.size source))
  else if Text.isBoundary source e.span.start ∧ Text.isBoundary source e.span.stop then none
  else some (.splitsCharacter e.span)

def isValid (source : Text) (e : Edit) : Bool := (e.problem? source).isNone

/-- Edits by the order of their spans; those of one span keep their order. -/
def sorted (edits : List Edit) : List Edit := edits.mergeSort fun a b => a.span.le b.span

/-- Whether each edit ends before the next one starts. -/
def ascending : List Edit → Bool
  | a :: b :: edits => a.span.stop ≤ b.span.start && ascending (b :: edits)
  | _ => true

/-- The end of the last edit, or a given offset if there is none. -/
def lastStop (start : Nat) (edits : List Edit) : Nat :=
  (edits.getLast?.map fun e => e.span.stop).getD start

/-- The source from an offset to the end of the last edit, with the edits put in. -/
def weave (source : Text) (start : Nat) : List Edit → Text
  | [] => []
  | e :: edits => Text.between source start e.span.start ++ e.text ++ weave source e.span.stop edits

/-- The source with ascending edits put in. -/
def applyAll (source : Text) (edits : List Edit) : Text :=
  weave source 0 edits ++ Text.between source (lastStop 0 edits) (Text.size source)

/-- One edit for all: from the first start to the last end, with what lies between copied from the
source. A single edit is taken as it is; of several, each must fit the source. -/
def merge (source : Text) (edits : List Edit) : Except EditProblem (Option Edit) :=
  match edits with
  | [] => .ok none
  | [e] => .ok (some e)
  | _ =>
    match edits.findSome? (problem? source) with
    | some problem => .error problem
    | none =>
      match sorted edits with
      | [] => .ok none
      | first :: rest =>
        if ascending (first :: rest) then
          let start := first.span.start
          .ok (some ⟨⟨start, lastStop start (first :: rest)⟩, weave source start (first :: rest)⟩)
        else .error .overlap

end Edit

end ScriptLint
