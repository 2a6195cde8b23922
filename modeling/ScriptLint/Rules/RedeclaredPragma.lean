import ScriptLint.Pragma
import ScriptLint.Rule.Visitor

/-!
# Redeclared pragmas

A variable must not have the name that JSX is compiled against. A file whose pragma is no identifier
is skipped.
-/

namespace ScriptLint.Rules.RedeclaredPragma

def info : RuleInfo where
  id := "jsx/no-redeclared-pragma"
  description := "Disallow variable declarations that shadow the JSX pragma"
  category := .correctness
  edits := none
  options := []
  messages := [("redeclared", "'\x7b\x7b name \x7d\x7d' is the JSX pragma and must not be redeclared.")]
  url := none

/-- The name that a declarator binds: its first identifier. -/
def binding? (declarator : Site) : Option Site :=
  declarator.childSites.find? fun s => s.kind == .identifier

def check (pragma : Text) (ctx : RuleContext) (declarator : Site) : List Report :=
  let redeclared := (binding? declarator).filter fun b => ctx.source.textOf b.span == pragma
  (redeclared.map fun b =>
    (Report.new b.span "redeclared").withValue "name" (String.ofList pragma)).toList

def rule : Rule where
  info := info
  create ctx :=
    match Pragma.ofSource ctx.source ctx.settings with
    | .ok pragma => .ok (.reporting .variableDeclarator (check pragma))
    | .error name => .error (Pragma.complaint name)

end ScriptLint.Rules.RedeclaredPragma
