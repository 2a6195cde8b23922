import ScriptLint.Rule.Report

/-!
# Visitors

For every file a rule sets up a visitor: subscriptions to the nodes of a kind, met on the way down or
on the way up, and a state of its own that its handlers pass on to one another. A handler answers a
node with an action: it reports problems and writes notes, and in the end it is done or has failed.
A report that is refused comes back to the handler, which may go on or fail.
-/

namespace ScriptLint

/-- What a handler does, for a visitor with states in `σ`. -/
inductive Action (σ : Type) where
  | done (state : σ)
  | fail (failure : Failure)
  | report (r : Report) (next : Option LintError → Action σ)
  | note (line : String) (next : Action σ)

namespace Action

/-- Reports one problem after another; the first refusal is a failure. -/
def reports (state : σ) : List Report → Action σ
  | [] => .done state
  | r :: rest => .report r fun refusal =>
    match refusal with
    | some e => .fail (.gaveUp [e.message])
    | none => reports state rest

/-- What an action leaves behind: diagnostics and notes, in order, and how it ended. -/
structure Result (σ : Type) where
  diagnostics : List Diagnostic
  notes : List String
  ending : Except Failure σ

def run (ctx : RuleContext) : Action σ → Result σ
  | done state => ⟨[], [], .ok state⟩
  | fail failure => ⟨[], [], .error failure⟩
  | note line next =>
    let r := run ctx next
    { r with notes := line :: r.notes }
  | report r next =>
    match ctx.report r with
    | .ok d =>
      let rest := run ctx (next none)
      { rest with diagnostics := d :: rest.diagnostics }
    | .error e => run ctx (next (some e))

end Action

/-- An interest in the nodes of a kind. -/
structure Subscription (σ : Type) where
  kind : SyntaxKind
  phase : Phase
  handle : RuleContext → Site → σ → Action σ

structure Visitor where
  State : Type
  start : State
  subscriptions : List (Subscription State)

namespace Visitor

/-- A visitor without state that reports what it finds at the nodes of one kind. -/
def reporting (kind : SyntaxKind) (find : RuleContext → Site → List Report) : Visitor :=
  ⟨Unit, (), [⟨kind, .enter, fun ctx site state => Action.reports state (find ctx site)⟩]⟩

/-- What the visitor is subscribed to, in order. -/
def topics (v : Visitor) : List (SyntaxKind × Phase) := v.subscriptions.map fun s => (s.kind, s.phase)

/-- The topics in one line. -/
def listing (v : Visitor) : String :=
  let one := fun (topic : SyntaxKind × Phase) =>
    "(" ++ topic.1.name ++ ", " ++ topic.2.name ++ ")"
  "[" ++ ", ".intercalate (v.topics.map one) ++ "]"

end Visitor

/-- A rule sets up a visitor for a file, or says why it skips the file. -/
structure Rule where
  info : RuleInfo
  create : RuleContext → Except String Visitor

namespace Rule

def id (r : Rule) : String := r.info.id

end Rule

/-- A rule in use: how severe its problems are, and its options. -/
structure ConfiguredRule where
  rule : Rule
  severity : Severity
  options : List Json

namespace ConfiguredRule

def id (r : ConfiguredRule) : String := r.rule.id

/-- What the rule is told about a file. -/
def context (r : ConfiguredRule) (settings : Json) (source : Source) : RuleContext :=
  ⟨r.rule.info, r.severity, r.options, settings, source⟩

end ConfiguredRule

end ScriptLint
