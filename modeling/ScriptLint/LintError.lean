import ScriptLint.FilePath

/-!
# Errors

What can go wrong while rules are set up and run. `message` words an error; an error is recoverable
if the other rules and files can go on without what failed.
-/

namespace ScriptLint

/-- Why a rule stopped in the middle of a file: it gave up, with its causes from the outermost to the
innermost, or it panicked, with a message if it left one. -/
inductive Failure where
  | gaveUp (causes : List String)
  | panicked (message : Option String)
  deriving DecidableEq, Repr

namespace Failure

def message : Failure → String
  | gaveUp causes => ": ".intercalate causes
  | panicked message => "panicked: " ++ message.getD "unknown panic payload"

end Failure

inductive LintError where
  | invalidOptions (rule path reason : String)
  | unknownMessageId (rule messageId : String)
  | duplicateRule (rule : String)
  | ruleCrash (rule : String) (failure : Failure)
  | unknownRule (rule : String)
  | config (reason : String)
  | badRule (rule reason : String)
  | io (path : FilePath) (reason : String)
  | parse (reason : String)
  | badEdit (rule reason : String)
  | internal (reason : String)
  deriving DecidableEq, Repr

inductive ErrorKind where
  | options
  | messageId
  | registration
  | crash
  | config
  | rule
  | io
  | parse
  | edit
  | internal
  deriving DecidableEq, Repr

namespace LintError

def message : LintError → String
  | invalidOptions rule path reason =>
    "Invalid options for rule '" ++ rule ++ "' at " ++ path ++ ": " ++ reason
  | unknownMessageId rule messageId =>
    "Rule '" ++ rule ++ "' reported unknown message id '" ++ messageId ++ "'"
  | duplicateRule rule => "Rule '" ++ rule ++ "' is already registered"
  | ruleCrash rule failure => "Rule '" ++ rule ++ "' crashed: " ++ failure.message
  | unknownRule rule => "Unknown rule '" ++ rule ++ "'"
  | config reason => "Configuration error: " ++ reason
  | badRule rule reason => "Rule error in '" ++ rule ++ "': " ++ reason
  | io path reason => "IO error for path '" ++ path.toString ++ "': " ++ reason
  | parse reason => "Parse error: " ++ reason
  | badEdit rule reason => "Autofix error in '" ++ rule ++ "': " ++ reason
  | internal reason => "Internal error: " ++ reason

def kind : LintError → ErrorKind
  | invalidOptions .. => .options
  | unknownMessageId .. => .messageId
  | duplicateRule .. => .registration
  | ruleCrash .. => .crash
  | unknownRule .. => .config
  | config .. => .config
  | badRule .. => .rule
  | io .. => .io
  | parse .. => .parse
  | badEdit .. => .edit
  | internal .. => .internal

def isRecoverable : LintError → Bool
  | invalidOptions .. | ruleCrash .. | unknownRule .. | io .. | parse .. => true
  | _ => false

/-- The rule that an error is about. -/
def ruleId? : LintError → Option String
  | invalidOptions rule .. => some rule
  | unknownMessageId rule .. => some rule
  | duplicateRule rule => some rule
  | ruleCrash rule .. => some rule
  | unknownRule rule => some rule
  | badRule rule _ => some rule
  | badEdit rule _ => some rule
  | config _ | io .. | parse _ | internal _ => none

/-- A result without its recoverable errors: these leave nothing behind. -/
def recover (result : Except LintError α) : Except LintError (Option α) :=
  match result with
  | .ok value => .ok (some value)
  | .error e => if e.isRecoverable then .ok none else .error e

end LintError

end ScriptLint
