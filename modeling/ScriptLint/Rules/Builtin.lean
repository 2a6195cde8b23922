import ScriptLint.Registry
import ScriptLint.Rules.FloatingDecimal
import ScriptLint.Rules.RedeclaredPragma
import ScriptLint.Rules.TemplateTagSpacing

/-!
# Built-in rules

The rules that come with the library, in the order in which they are registered.
-/

namespace ScriptLint.Rules

def builtin : List Rule := [FloatingDecimal.rule, TemplateTagSpacing.rule, RedeclaredPragma.rule]

def builtinOf (category : RuleCategory) : List Rule :=
  builtin.filter fun r => r.info.category == category

/-- A registry of the built-in rules. -/
def builtinRegistry : Registry := (Registry.empty.registerAll builtin).1

/-- The name under which the engine is released, and the releases of the engine and of the rules. -/
def release : List String := ["lintel-core", "0.1.0", "0.1.0"]

end ScriptLint.Rules
