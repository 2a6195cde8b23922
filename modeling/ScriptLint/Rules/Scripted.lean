import ScriptLint.Rule.Visitor

/-!
# Scripted rules

A rule can be put together from data: what it subscribes to, which nodes it picks, and what it does
with them. Every subscription counts the nodes it has picked in a file and may wait for one of them.
-/

namespace ScriptLint.Rules

/-- What a report or an edit is about. -/
inductive Target where
  | span (s : Span)
  | first
  | last
  | node

/-- The span of a target; a token that is not there gives way to the node. -/
def Target.resolve (target : Target) (site : Site) : Span :=
  let token := match target with
    | .first => site.firstToken?
    | .last => site.lastToken?
    | _ => none
  match target, token with
  | .span s, _ => s
  | _, some p => p.token.span
  | _, none => site.span

inductive EditMode where
  | before
  | after
  | remove
  | replace

structure EditScript where
  mode : EditMode
  target : Target
  text : Text

namespace EditScript

def edit (e : EditScript) (site : Site) : Edit :=
  let span := e.target.resolve site
  match e.mode with
  | .before => Edit.insertBefore span e.text
  | .after => Edit.insertAfter span e.text
  | .remove => Edit.remove span
  | .replace => Edit.replace span e.text

end EditScript

structure ReportScript where
  messageId : String
  target : Target
  data : List (String × String)
  edits : List EditScript

/-- What a rule leaves behind when it panics: a word with the text of the node, a fixed text, or
nothing that can be read. -/
inductive PanicScript where
  | word (w : String)
  | fixed
  | unreadable

inductive ActionScript where
  | log (label : String)
  | report (r : ReportScript)
  /-- A report whose refusal is noted and passed over. -/
  | tryReport (r : ReportScript)
  /-- A failure with its causes, innermost first. -/
  | fail (causes : List String)
  | panic (p : PanicScript)

/-- A subscription with its picks: the text that a node must have, how it must start, and which one
of the nodes that have both is meant. -/
structure SubscriptionScript where
  kind : SyntaxKind
  phase : Phase
  text : Option String
  start : String
  nth : Option Nat
  actions : List ActionScript

structure Script where
  info : RuleInfo
  /-- The reason for which every file is skipped. -/
  skip : Option String
  /-- A setting that must be a string. -/
  setting : Option (List String)
  subscriptions : List SubscriptionScript

namespace ReportScript

/-- The value that stands for a word with a dollar sign. -/
def value (ctx : RuleContext) (text : Text) (word : String) : String :=
  match word with
  | "$text" => String.ofList text
  | "$severity" => ctx.severity.name
  | "$option" => ((ctx.option? 0).map Json.render).getD ""
  | "$options" => toString ctx.options.length
  | "$settings" => ctx.settings.render
  | other => other

def report (r : ReportScript) (ctx : RuleContext) (site : Site) (text : Text) : Report :=
  ⟨r.target.resolve site, r.messageId, r.data.map fun d => (d.1, value ctx text d.2),
    r.edits.map fun e => e.edit site⟩

end ReportScript

def PanicScript.message (text : Text) : PanicScript → Option String
  | .word w => some (w ++ " " ++ String.ofList text)
  | .fixed => some "static panic"
  | .unreadable => none

namespace ActionScript

/-- Does one thing after another and ends with the given state. -/
def act (ctx : RuleContext) (site : Site) (text : Text) (state : σ) : List ActionScript → Action σ
  | [] => .done state
  | .log label :: rest =>
    let line := ctx.info.id ++ " " ++ label ++ " " ++ site.kind.name ++ " " ++ String.ofList text
    .note line (act ctx site text state rest)
  | .report r :: rest =>
    .report (r.report ctx site text) fun refusal =>
      match refusal with
      | some e => .fail (.gaveUp [e.message])
      | none => act ctx site text state rest
  | .tryReport r :: rest =>
    .report (r.report ctx site text) fun refusal =>
      match refusal with
      | some e => .note (ctx.info.id ++ " " ++ e.message) (act ctx site text state rest)
      | none => act ctx site text state rest
  | .fail causes :: _ => .fail (.gaveUp causes.reverse)
  | .panic p :: _ => .fail (.panicked (p.message text))

end ActionScript

namespace SubscriptionScript

/-- The text that picked nodes must have. The word `$setting` stands for the value of the setting;
without a setting it asks for nothing. -/
def wanted? (s : SubscriptionScript) (setting : Option String) : Option String :=
  if s.text = some "$setting" then setting else s.text

/-- Whether a node of a text is picked. -/
def picks (s : SubscriptionScript) (setting : Option String) (text : Text) : Bool :=
  ((s.wanted? setting).all fun wanted => wanted.toList == text) && s.start.toList.isPrefixOf text

/-- The handler of the subscription of a number; the state holds the counts of all of them. -/
def handle (s : SubscriptionScript) (setting : Option String) (number : Nat) (ctx : RuleContext)
    (site : Site) (counts : List Nat) : Action (List Nat) :=
  let text := ctx.source.textOf site.span
  if s.picks setting text then
    let count := counts.getD number 0 + 1
    let counts := counts.set number count
    if s.nth.all fun n => n == count then ActionScript.act ctx site text counts s.actions
    else .done counts
  else .done counts

end SubscriptionScript

namespace Script

/-- The value of the setting that the rule needs, if it needs one, or why it skips the file. -/
def needed (s : Script) (ctx : RuleContext) : Except String (Option String) :=
  match s.setting with
  | none => .ok none
  | some path =>
    match (ctx.setting? path).bind Json.asString? with
    | some value => .ok (some value)
    | none => .error ("no setting " ++ ".".intercalate path)

def visitor (s : Script) (setting : Option String) : Visitor :=
  ⟨List Nat, s.subscriptions.map fun _ => 0,
    s.subscriptions.mapIdx fun i sub => ⟨sub.kind, sub.phase, sub.handle setting i⟩⟩

def rule (s : Script) : Rule where
  info := s.info
  create ctx :=
    match s.skip, s.needed ctx with
    | some reason, _ => .error reason
    | none, .error reason => .error reason
    | none, .ok setting => .ok (s.visitor setting)

end Script

end ScriptLint.Rules
