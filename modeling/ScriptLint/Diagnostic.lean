import ScriptLint.Edit
import ScriptLint.FilePath
import ScriptLint.Text.Lines

/-!
# Diagnostics

A diagnostic is one problem that a rule found: which rule and which of its messages, how severe,
where, and the edit that would mend it, with what became of that edit.

`withEdit` keeps the status in step with the edit: it is `none` exactly when there is no edit.
-/

namespace ScriptLint

/-- From the least to the most severe. -/
inductive Severity where
  | info
  | hint
  | warning
  | error
  deriving DecidableEq, Repr, Inhabited

namespace Severity

def all : List Severity := [.info, .hint, .warning, .error]

def name : Severity → String
  | info => "info"
  | hint => "hint"
  | warning => "warning"
  | error => "error"

def rank : Severity → Nat
  | info => 0
  | hint => 1
  | warning => 2
  | error => 3

def ofName? (name : String) : Option Severity := all.find? fun s => s.name == name

/-- Severities in ascending order. -/
def sorted (severities : List Severity) : List Severity :=
  severities.mergeSort fun a b => a.rank ≤ b.rank

end Severity

/-- What became of the edit of a diagnostic. -/
inductive EditStatus where
  | none
  | available
  | applied
  | skippedConflict
  deriving DecidableEq, Repr, Inhabited

namespace EditStatus

def all : List EditStatus := [.none, .available, .applied, .skippedConflict]

def name : EditStatus → String
  | none => "none"
  | available => "available"
  | applied => "applied"
  | skippedConflict => "skippedConflict"

def ofName? (name : String) : Option EditStatus := all.find? fun s => s.name == name

/-- The remark in a listing, if there is one. -/
def label? : EditStatus → Option String
  | none => Option.none
  | available => some "fixable"
  | applied => some "fixed"
  | skippedConflict => some "fix skipped (conflict)"

end EditStatus

/-- A stretch of a file: where it starts, where it ends if that is known, and its bytes. A text that
belongs to no file has the empty path. -/
structure Location where
  file : FilePath
  start : Position
  endLine : Option Nat
  endColumn : Option Nat
  offset : Nat
  length : Nat
  deriving DecidableEq, Repr

namespace Location

/-- No place at all. -/
def nowhere : Location := ⟨⟨[]⟩, ⟨0, 0⟩, none, none, 0, 0⟩

def span (l : Location) : Span := ⟨l.offset, l.offset + l.length⟩

/-- Locations by file, then by line, then by column. -/
def compare (a b : Location) : Ordering :=
  (FilePath.compare a.file b.file).then
    ((Ord.compare a.start.line b.start.line).then (Ord.compare a.start.column b.start.column))

end Location

structure Diagnostic where
  rule : String
  messageId : String
  severity : Severity
  message : String
  location : Location
  edit : Option Edit
  status : EditStatus
  deriving DecidableEq, Repr

namespace Diagnostic

def new (rule messageId : String) (severity : Severity) (message : String) (location : Location) :
    Diagnostic :=
  ⟨rule, messageId, severity, message, location, none, .none⟩

def withEdit (d : Diagnostic) (edit : Option Edit) : Diagnostic :=
  { d with edit := edit, status := if edit.isSome then .available else .none }

def inFile (d : Diagnostic) (file : FilePath) : Diagnostic :=
  { d with location := { d.location with file := file } }

def isFixable (d : Diagnostic) : Bool := d.edit.isSome

/-- Whether the problem is still there after the edits of its pass. -/
def isUnfixed (d : Diagnostic) : Bool := d.status ≠ .applied

def isError (d : Diagnostic) : Bool := d.severity == .error

/-- Diagnostics by their locations; those of one place keep their order. -/
def sorted (diagnostics : List Diagnostic) : List Diagnostic :=
  diagnostics.mergeSort fun a b => (Location.compare a.location b.location).isLE

end Diagnostic

end ScriptLint
