import ScriptLint.Diagnostic
import ScriptLint.Rule.Info
import ScriptLint.Rule.Template
import ScriptLint.Source

/-!
# Reports

A rule reports a problem by the id of one of its messages, a span, values for the placeholders of the
message, and edits that would mend it. `RuleContext.report` makes a diagnostic of a report, or says
what is wrong with the report. It checks the message id first, then the span, then the edits.
-/

namespace ScriptLint

structure Report where
  span : Span
  messageId : String
  data : Template.Data
  edits : List Edit
  deriving DecidableEq, Repr

namespace Report

def new (span : Span) (messageId : String) : Report := ⟨span, messageId, [], []⟩

def withValue (r : Report) (name value : String) : Report := { r with data := r.data ++ [(name, value)] }

def withEdit (r : Report) (edit : Edit) : Report := { r with edits := r.edits ++ [edit] }

end Report

/-- What a rule is told about a file and about how it is configured. -/
structure RuleContext where
  info : RuleInfo
  severity : Severity
  options : List Json
  settings : Json
  source : Source

namespace RuleContext

def option? (ctx : RuleContext) (index : Nat) : Option Json := ctx.options[index]?

/-- The shared setting at a path. -/
def setting? (ctx : RuleContext) (path : List String) : Option Json := ctx.settings.at? path

/-- The location of a span of the source, with its end. -/
def location (source : Source) (span : Span) : Location :=
  let stop := source.position span.stop
  ⟨⟨[]⟩, source.position span.start, some stop.line, some stop.column, span.start, span.length⟩

/-- Whether a span lies in the source, with its ends in order. -/
def covers (source : Source) (span : Span) : Bool :=
  span.start ≤ span.stop && span.stop ≤ Text.size source.text

/-- The one edit that the edits of a report come to. -/
def settleEdits (ctx : RuleContext) (edits : List Edit) : Except LintError (Option Edit) :=
  let rule := ctx.info.id
  if ! edits.isEmpty && ! ctx.info.offersEdits then
    .error (.badEdit rule "fixes can only be reported by rules with a fixable meta")
  else
    match edits.findSome? (Edit.problem? ctx.source.text) with
    | some problem => .error (.badEdit rule problem.message)
    | none => (Edit.merge ctx.source.text edits).mapError fun problem => .badEdit rule problem.message

/-- The diagnostic of a report. -/
def report (ctx : RuleContext) (r : Report) : Except LintError Diagnostic :=
  let rule := ctx.info.id
  match ctx.info.message? r.messageId with
  | none => .error (.unknownMessageId rule r.messageId)
  | some template =>
    if ! covers ctx.source r.span then
      .error (.badRule rule ("report range " ++ r.span.render ++ " is outside the source"))
    else
      (settleEdits ctx r.edits).map fun edit =>
        (Diagnostic.new rule r.messageId ctx.severity (Template.render template r.data)
          (location ctx.source r.span)).withEdit edit

end RuleContext

end ScriptLint
