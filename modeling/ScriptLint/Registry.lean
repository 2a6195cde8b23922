import ScriptLint.Config
import ScriptLint.Rule.Visitor
import ScriptLint.Text.Quoted

/-!
# Registries

A registry holds the known rules in the order in which they were registered, no id twice. Rules are
put to use one by one (`instantiate`) or as a configuration says (`configure`).
-/

namespace ScriptLint

structure Registry where
  rules : List Rule

namespace Registry

def empty : Registry := ⟨[]⟩

def find? (r : Registry) (id : String) : Option Rule := r.rules.find? fun rule => rule.id == id

def contains (r : Registry) (id : String) : Bool := (r.find? id).isSome

def ids (r : Registry) : List String := r.rules.map Rule.id

/-- The ids in one line. -/
def listing (r : Registry) : String :=
  "[" ++ ", ".intercalate (r.ids.map fun id => Text.quoted id.toList) ++ "]"

def size (r : Registry) : Nat := r.rules.length

/-- Why a rule cannot be registered: its description is faulty, or its id is taken. -/
def objection? (r : Registry) (rule : Rule) : Option LintError :=
  match rule.info.problem? with
  | some problem => some problem
  | none => if r.contains rule.id then some (.duplicateRule rule.id) else none

def register (r : Registry) (rule : Rule) : Except LintError Registry :=
  match r.objection? rule with
  | some e => .error e
  | none => .ok ⟨r.rules ++ [rule]⟩

/-- Registers rules in order up to the first one that is refused. -/
def registerAll (r : Registry) : List Rule → Registry × Option LintError
  | [] => (r, none)
  | rule :: rest =>
    match r.register rule with
    | .ok next => next.registerAll rest
    | .error e => (r, some e)

/-- A rule put to use with options that its shapes allow. -/
def configureRule (rule : Rule) (severity : Severity) (options : List Json) :
    Except LintError ConfiguredRule :=
  match OptionShape.listFault? rule.info.options options with
  | some fault => .error (.invalidOptions rule.id fault.pathText fault.message)
  | none => .ok ⟨rule, severity, options⟩

/-- The rule of an id put to use. -/
def instantiate (r : Registry) (id : String) (severity : Severity) (options : List Json) :
    Except LintError ConfiguredRule :=
  match r.find? id with
  | some rule => configureRule rule severity options
  | none => .error (.unknownRule id)

/-- What the entry of a rule comes to: nothing if the rule is off. -/
def applySetting (rule : Rule) (setting : RuleSetting) :
    Option (Except LintError ConfiguredRule) :=
  match setting.resolve with
  | .error problem => some (.error (.invalidOptions rule.id "severity" problem.message))
  | .ok none => none
  | .ok (some (severity, options)) => some (configureRule rule severity options)

/-- The rules that a configuration turns on, and the errors of its entries. -/
structure Configured where
  rules : List ConfiguredRule
  errors : List LintError

def Configured.add (c : Configured) : Except LintError ConfiguredRule → Configured
  | .ok rule => { c with rules := c.rules ++ [rule] }
  | .error e => { c with errors := c.errors ++ [e] }

/-- Rules as a table says, in the order of their registration. Errors name unknown ids first, in the
order of the table; one entry in error does not keep the others from their effect. -/
def configure (r : Registry) (config : Config) : Configured :=
  match config.rules with
  | none => ⟨[], []⟩
  | some table =>
    let unknown := (table.ids.filter fun id => ! r.contains id).map LintError.unknownRule
    let outcomes := r.rules.filterMap fun rule => (table.get? rule.id).bind (applySetting rule)
    outcomes.foldl Configured.add ⟨[], unknown⟩

end Registry

end ScriptLint
