import ScriptLint.Rule.Visitor

/-!
# Floating decimal points

A number that starts or ends with its decimal point gets a zero there. If the number starts with the
point and touches a word before it, a blank is put in between, so that word and number stay apart.
-/

namespace ScriptLint.Rules.FloatingDecimal

def info : RuleInfo where
  id := "js/no-floating-decimal"
  description := "Disallow leading or trailing decimal points in numeric literals"
  category := .style
  edits := some .code
  options := []
  messages :=
    [("leading", "A leading decimal point can be confused with a dot."),
      ("trailing", "A trailing decimal point can be confused with a dot.")]
  url := some "https://eslint.style/rules/js/no-floating-decimal"

/-- Whether the token before a place touches it and ends like a word. -/
def touchesWord (p : Place) : Bool :=
  p.significantBefore?.any fun before =>
    before.token.stop == p.token.start && before.token.text.getLast?.any Text.isWordPart

/-- What is wrong with a number, as the message and the edit. -/
def fault? (p : Place) : Option (String × Edit) :=
  if p.token.text.head? = some '.' then
    let zero := if touchesWord p then [' ', '0'] else ['0']
    some ("leading", Edit.insertBefore p.token.span zero)
  else if p.token.text.getLast? = some '.' then
    some ("trailing", Edit.insertAfter p.token.span ['0'])
  else none

def check (_ : RuleContext) (literal : Site) : List Report :=
  let number := literal.firstToken?.filter fun p => p.token.kind == .number
  ((number.bind fault?).map fun (message, edit) =>
    (Report.new literal.span message).withEdit edit).toList

def rule : Rule := ⟨info, fun _ => .ok (.reporting .literal check)⟩

end ScriptLint.Rules.FloatingDecimal
