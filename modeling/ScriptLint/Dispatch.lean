import Std.Data.HashMap
import ScriptLint.Rule.Visitor

/-!
# Running rules over a file

A run sets up the visitors of all rules and walks once through the tree. At every step it runs the
handlers that are subscribed to the kind and phase of the step: those of earlier rules first, and
those of one rule in the order of its subscriptions. A table finds them by kind and phase.

A rule whose handler fails takes no further part in the run. The others go on, and what the rule
reported before stays. The run keeps the first failure.
-/

namespace ScriptLint

/-- A rule that skips a file, with its reason. -/
structure SkippedRule where
  rule : String
  reason : String
  deriving DecidableEq, Repr

/-- A rule at work on a file: what it is told, its visitor, and the state of that, which is gone once
the rule has failed. -/
structure Worker where
  context : RuleContext
  visitor : Visitor
  state : Option visitor.State

/-- A subscription by the numbers of its worker and of its place among that worker's subscriptions. -/
structure Slot where
  worker : Nat
  subscription : Nat
  deriving DecidableEq, Repr

/-- What a step of a worker leaves behind. -/
structure StepResult where
  worker : Worker
  diagnostics : List Diagnostic
  notes : List String
  failure : Option Failure

namespace Worker

def id (w : Worker) : String := w.context.info.id

/-- A step that does nothing. -/
def rest (w : Worker) : StepResult := ⟨w, [], [], none⟩

/-- Runs one handler of a worker at a node. -/
def step (w : Worker) (subscription : Nat) (site : Site) : StepResult :=
  match w.visitor.subscriptions[subscription]?, w.state with
  | some s, some state =>
    let result := (s.handle w.context site state).run w.context
    match result.ending with
    | .ok state => ⟨{ w with state := some state }, result.diagnostics, result.notes, none⟩
    | .error failure => ⟨{ w with state := none }, result.diagnostics, result.notes, some failure⟩
  | _, _ => w.rest

end Worker

/-- The rules of a run, set up for a file. -/
structure Setup where
  workers : List Worker
  skipped : List SkippedRule

namespace Setup

/-- Sets up rules in order; those that skip the file have no worker. -/
def ofRules (settings : Json) (source : Source) : List ConfiguredRule → Setup
  | [] => ⟨[], []⟩
  | r :: rules =>
    let rest := ofRules settings source rules
    let ctx := r.context settings source
    match r.rule.create ctx with
    | .ok visitor => { rest with workers := ⟨ctx, visitor, some visitor.start⟩ :: rest.workers }
    | .error reason => { rest with skipped := ⟨r.id, reason⟩ :: rest.skipped }

/-- All subscriptions with what they are subscribed to, in the order of workers. -/
def slots (s : Setup) : List ((SyntaxKind × Phase) × Slot) :=
  s.workers.zipIdx.flatMap fun (w, i) => w.visitor.topics.zipIdx.map fun (topic, j) => (topic, ⟨i, j⟩)

end Setup

/-- The subscriptions by kind and phase, those of one kind and phase in order. -/
abbrev Table := Std.HashMap (SyntaxKind × Phase) (List Slot)

namespace Table

def add (table : Table) (entry : (SyntaxKind × Phase) × Slot) : Table :=
  table.insert entry.1 (table.getD entry.1 [] ++ [entry.2])

def ofSlots (slots : List ((SyntaxKind × Phase) × Slot)) : Table := slots.foldl add ∅

end Table

/-- A run under way. Diagnostics and notes stand latest first. -/
structure Run where
  workers : List Worker
  diagnostics : List Diagnostic
  notes : List String
  error : Option LintError

namespace Run

def start (workers : List Worker) : Run := ⟨workers, [], [], none⟩

/-- Runs the handler of a slot at a node. -/
def step (site : Site) (run : Run) (slot : Slot) : Run :=
  match run.workers[slot.worker]? with
  | none => run
  | some worker =>
    let result := worker.step slot.subscription site
    ⟨run.workers.set slot.worker result.worker, result.diagnostics.reverse ++ run.diagnostics,
      result.notes.reverse ++ run.notes,
      run.error.or (result.failure.map fun failure => .ruleCrash worker.id failure)⟩

/-- Runs all handlers that a table has for a step of the walk. -/
def visit (table : Table) (run : Run) (event : Phase × Site) : Run :=
  (table.getD (event.2.kind, event.1) []).foldl (step event.2) run

end Run

/-- What a run over a file has found. -/
structure Dispatch where
  diagnostics : List Diagnostic
  skipped : List SkippedRule
  /-- The first failure of a rule. -/
  error : Option LintError
  notes : List String

namespace Dispatch

/-- What a run comes to at its end. -/
def ofRun (skipped : List SkippedRule) (run : Run) : Dispatch :=
  ⟨run.diagnostics.reverse, skipped, run.error, run.notes.reverse⟩

def run (rules : List ConfiguredRule) (settings : Json) (source : Source) : Dispatch :=
  let setup := Setup.ofRules settings source rules
  let table := Table.ofSlots setup.slots
  ofRun setup.skipped (source.tree.walk.foldl (Run.visit table) (Run.start setup.workers))

end Dispatch

end ScriptLint
