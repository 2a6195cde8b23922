import ScriptLint.Json.Basic

/-!
# The schema of configuration files

A JSON Schema, for editors that check and complete configuration files.
-/

namespace ScriptLint.Config.Schema

def described (text : String) (members : List (String × Json)) : Json :=
  .obj (("description", .str text) :: members)

def typed (name : String) : String × Json := ("type", .str name)

/-- A type whose values may also be null. -/
def orNull (name : String) : String × Json := ("type", .arr [.str name, .str "null"])

def reference (name : String) : Json := .obj [("$ref", .str ("#/$defs/" ++ name))]

/-- The mark around code in a description. -/
def codeMark : String := String.singleton (Char.ofNat 0x60)

def linter : Json :=
  described "Linter configuration" [typed "object",
    ("properties", .obj [
      ("enabled", described "Enable or disable the linter" [orNull "boolean"]),
      ("fix", described "Apply autofixes and rewrite the source" [orNull "boolean"]),
      ("maxPasses", described "Maximum number of fix passes per file (default 10)"
        [orNull "integer", ("format", .str "uint"), ("minimum", .int 0)])])]

/-- The description of a rule entry, with an example. -/
def entryText : String :=
  let fence := codeMark ++ codeMark ++ codeMark
  "One entry of the " ++ codeMark ++ "rules" ++ codeMark ++ " table\n\n" ++ fence ++ "jsonc\n" ++
    "\"js/no-floating-decimal\": \"error\",\n" ++
    "\"js/template-tag-spacing\": [\"warn\", \"always\"]\n" ++ fence

def entry : Json :=
  described entryText [("anyOf", .arr [reference "RuleLevel",
    .obj [typed "array", ("items", .bool true)]])]

def level : Json :=
  described "A severity given by name or number" [("anyOf", .arr [reference "RuleSeverity",
    .obj [typed "integer", ("format", .str "uint8"), ("minimum", .int 0), ("maximum", .int 255)]])]

def severity : Json :=
  let case := fun (text name : String) => described text [typed "string", ("const", .str name)]
  described "Rule severity levels" [("oneOf", .arr [case "Disable the rule" "off",
    case "Informational message" "info", case "Warning (doesn't fail the run)" "warn",
    case "Error (fails the run)" "error"])]

def properties : Json :=
  .obj [
    ("root", described "Stop config file discovery at this directory" [orNull "boolean"]),
    ("extends", described "Inherit from other config files (relative or absolute paths)"
      [orNull "array", ("items", .obj [typed "string"])]),
    ("linter", described "Linter settings"
      [("anyOf", .arr [reference "LinterConfiguration", .obj [typed "null"]])]),
    ("rules", described
      "Rule configuration: a severity, or an array of a severity followed by the rule's options"
      [orNull "object", ("additionalProperties", reference "RuleSetting")]),
    ("settings", described "Settings shared by all rules, such as react.pragma" [])]

/-- The schema of a whole file. -/
def document : Json :=
  .obj [("$schema", .str "https://json-schema.org/draft/2020-12/schema"),
    ("title", .str "LintelConfiguration"), ("description", .str "Main lintel configuration"),
    typed "object", ("properties", properties),
    ("$defs", .obj [("LinterConfiguration", linter), ("RuleSetting", entry), ("RuleLevel", level),
      ("RuleSeverity", severity)])]

end ScriptLint.Config.Schema
