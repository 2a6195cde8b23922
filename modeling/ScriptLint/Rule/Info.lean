import ScriptLint.LintError
import ScriptLint.Rule.Options
import ScriptLint.Text.Class

/-!
# Descriptions of rules

What is known of a rule before it runs: its id, which options it takes, its messages, and whether it
offers edits. `problem?` says what is wrong with a description.
-/

namespace ScriptLint

inductive RuleCategory where
  | correctness
  | suspicious
  | style
  | nursery
  deriving DecidableEq, Repr

namespace RuleCategory

def all : List RuleCategory := [.correctness, .suspicious, .style, .nursery]

def name : RuleCategory → String
  | correctness => "correctness"
  | suspicious => "suspicious"
  | style => "style"
  | nursery => "nursery"

def ofName? (name : String) : Option RuleCategory := all.find? fun c => c.name == name

end RuleCategory

/-- What the edits of a rule may change. -/
inductive EditScope where
  | code
  | whitespace
  deriving DecidableEq, Repr

namespace EditScope

def name : EditScope → String
  | code => "code"
  | whitespace => "whitespace"

def ofName? (name : String) : Option EditScope := [code, whitespace].find? fun s => s.name == name

end EditScope

structure RuleInfo where
  id : String
  description : String
  category : RuleCategory
  edits : Option EditScope
  options : List OptionShape
  /-- Message templates by their ids, which are all different. -/
  messages : List (String × String)
  url : Option String

namespace RuleInfo

/-- A message added, in the place of an earlier one of that id. -/
def setMessage (id template : String) : List (String × String) → List (String × String)
  | [] => [(id, template)]
  | (i, t) :: rest => if i = id then (i, template) :: rest else (i, t) :: setMessage id template rest

/-- Messages as they are written one after another. -/
def collectMessages (written : List (String × String)) : List (String × String) :=
  written.foldl (fun messages m => setMessage m.1 m.2 messages) []

def message? (info : RuleInfo) (id : String) : Option String := info.messages.lookup id

def offersEdits (info : RuleInfo) : Bool := info.edits.isSome

def isSlugChar (c : Char) : Bool := c.isLower || c.isDigit || c == '-'

/-- Lower-case words and numbers with hyphens between them. -/
def isSlug (segment : Text) : Bool :=
  ! segment.isEmpty && segment.head? != some '-' && segment.getLast? != some '-' &&
    segment.all isSlugChar

/-- The segment of an id that is not as it should be. -/
def badSegment? (id : String) : Option Text :=
  (Text.splitAt '/' id.toList).find? fun segment => ! isSlug segment

def problem? (info : RuleInfo) : Option LintError :=
  if info.id.toList.all Text.isSpace then
    some (.badRule info.id "Rule ID cannot be empty")
  else
    match badSegment? info.id with
    | some segment =>
      some (.badRule info.id ("Rule ID segment '" ++ String.ofList segment ++
        "' must be lower-case and use hyphenated segments"))
    | none =>
      if info.messages.isEmpty then
        some (.badRule info.id "Rule must declare at least one message")
      else none

end RuleInfo

end ScriptLint
