import ScriptLint.Rule.Visitor

/-!
# Space behind template tags

The option `always` asks for white space between a tag and its template, `never` forbids it, and
`never` holds if there is no option. Forbidden space is taken out and comments in the gap are kept,
unless one of them runs to the end of its line: then the problem is only reported. Missing space is
one blank behind the tag.
-/

namespace ScriptLint.Rules.TemplateTagSpacing

def info : RuleInfo where
  id := "js/template-tag-spacing"
  description := "Require or disallow spacing between template tags and their literals"
  category := .style
  edits := some .whitespace
  options := [.words ["always", "never"]]
  messages :=
    [("unexpected", "Unexpected space between template tag and template literal."),
      ("missing", "Missing space between template tag and template literal.")]
  url := some "https://eslint.style/rules/js/template-tag-spacing"

/-- A tagged template: where it starts, the last token of its tag, its template and the first token of
that. -/
structure Tagged where
  start : Nat
  tag : Place
  template : Site
  opening : Place

def tagged? (site : Site) : Option Tagged := do
  let template ← site.childSites.getLast?.filter fun s => s.kind == .templateLiteral
  some ⟨site.start, ← template.tokenBefore?, template, ← template.firstToken?⟩

namespace Tagged

def gap (t : Tagged) : Span := ⟨t.tag.token.stop, t.opening.token.start⟩

def isSpaced (t : Tagged) : Bool := t.tag.spaceBetween t.opening

/-- The gap with nothing but its comments, if they can stand there. -/
def closeGap? (t : Tagged) : Option Edit :=
  let comments := t.template.commentsBefore
  if comments.any fun c => c.kind == .lineComment then none
  else some (Edit.replace t.gap (comments.flatMap Token.text))

def unexpected (t : Tagged) : Report := { Report.new t.gap "unexpected" with edits := t.closeGap?.toList }

def missing (t : Tagged) : Report :=
  (Report.new ⟨t.start, t.opening.token.start⟩ "missing").withEdit
    (Edit.insertAfter t.tag.token.span [' '])

end Tagged

/-- Whether the options ask for white space. -/
def wantsSpace (ctx : RuleContext) : Bool := ((ctx.option? 0).bind Json.asString?) == some "always"

def check (ctx : RuleContext) (site : Site) : List Report :=
  match tagged? site with
  | none => []
  | some t =>
    match wantsSpace ctx, t.isSpaced with
    | false, true => [t.unexpected]
    | true, false => [t.missing]
    | _, _ => []

def rule : Rule := ⟨info, fun _ => .ok (.reporting .taggedTemplateExpression check)⟩

end ScriptLint.Rules.TemplateTagSpacing
