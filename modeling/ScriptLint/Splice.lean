import ScriptLint.Diagnostic

/-!
# Splicing a pass

One pass carries an edit in some of its diagnostics. `Splice.run` settles which of them are made:
the valid edits are taken in the order of their spans, and each is accepted that starts at or behind
the end of the last accepted one. The accepted edits are made together, and every diagnostic with a
valid edit learns what became of it. An edit that does not fit the text is left alone.
-/

namespace ScriptLint

/-- A valid edit with the number of the diagnostic that carries it. -/
structure Candidate where
  index : Nat
  edit : Edit
  deriving DecidableEq, Repr

namespace Candidate

/-- The candidates among diagnostics that are numbered from `index` on. -/
def collect (source : Text) (index : Nat) : List Diagnostic → List Candidate
  | [] => []
  | d :: ds =>
    match d.edit.filter (Edit.isValid source) with
    | some edit => ⟨index, edit⟩ :: collect source (index + 1) ds
    | none => collect source (index + 1) ds

def sorted (candidates : List Candidate) : List Candidate :=
  candidates.mergeSort fun a b => a.edit.span.le b.edit.span

/-- The candidates that are accepted behind an offset, out of sorted ones. -/
def accept (stop : Nat) : List Candidate → List Candidate
  | [] => []
  | c :: cs =>
    if stop ≤ c.edit.span.start then c :: accept c.edit.span.stop cs else accept stop cs

end Candidate

/-- The outcome of a pass: the new text, the accepted spans in ascending order, the number of valid
edits that were not accepted, and the diagnostics with their new statuses. -/
structure Splice where
  output : Text
  accepted : List Span
  skipped : Nat
  diagnostics : List Diagnostic

namespace Splice

def applied (s : Splice) : Nat := s.accepted.length

/-- The status of the diagnostic of a number after the pass. -/
def settle (candidates accepted : List Candidate) (index : Nat) (d : Diagnostic) : Diagnostic :=
  if accepted.any (·.index == index) then { d with status := .applied }
  else if candidates.any (·.index == index) then { d with status := .skippedConflict }
  else d

def run (source : Text) (diagnostics : List Diagnostic) : Splice :=
  let candidates := Candidate.collect source 0 diagnostics
  let accepted := Candidate.accept 0 (Candidate.sorted candidates)
  let edits := accepted.map Candidate.edit
  ⟨Edit.applyAll source edits, edits.map Edit.span, candidates.length - accepted.length,
    diagnostics.mapIdx (settle candidates accepted)⟩

end Splice

end ScriptLint
