import ScriptLint.Json.Basic
import ScriptLint.Source

/-!
# The JSX pragma

The pragma is the name that JSX is compiled against. The first comment with a `@jsx` annotation gives
it; if there is none, the setting `react.pragma` does, and if that is missing too, it is `React`. Of
an annotation only the part before the first point counts.
-/

namespace ScriptLint.Pragma

def defaultName : String := "React"

/-- The inside of a comment. -/
def commentBody (comment : Token) : Text :=
  match comment.kind, comment.text with
  | .lineComment, '/' :: '/' :: body => body
  | .blockComment, '/' :: '*' :: rest =>
    if ['*', '/'].isSuffixOf rest then rest.take (rest.length - 2) else comment.text
  | _, text => text

/-- What an annotation names, if the text behind its `@jsx` starts with white space and a word. -/
def annotated? (behind : Text) : Option Text :=
  let word := (behind.dropWhile Text.isSpace).takeWhile fun c => ! Text.isSpace c
  if (behind.head?.any Text.isSpace) && ! word.isEmpty then some (word.takeWhile (· ≠ '.')) else none

/-- What the first annotation of a text names. -/
def annotation? : Text → Option Text
  | [] => none
  | c :: cs =>
    match c :: cs with
    | '@' :: 'j' :: 's' :: 'x' :: behind => (annotated? behind).or (annotation? cs)
    | _ => annotation? cs

/-- The setting, unless it is the empty text. -/
def setting? (settings : Json) : Option Text :=
  (((settings.at? ["react", "pragma"]).bind Json.asString?).map String.toList).filter (· ≠ [])

/-- The name before it is checked. -/
def name (source : Source) (settings : Json) : Text :=
  ((source.comments.findSome? fun c => annotation? (commentBody c)).or (setting? settings)).getD
    defaultName.toList

def isWordStart (c : Char) : Bool := c.isAlpha || c == '_' || c == '$'

/-- Whether a text is a word of letters, digits, `_` and `$` of ASCII that starts with no digit. -/
def isIdentifier : Text → Bool
  | [] => false
  | c :: cs => isWordStart c && cs.all fun c => isWordStart c || c.isDigit

/-- The pragma of a file, or the name that is no identifier. -/
def ofSource (source : Source) (settings : Json) : Except Text Text :=
  let name := name source settings
  if isIdentifier name then .ok name else .error name

/-- What is said of a name that is no identifier. -/
def complaint (name : Text) : String :=
  "React pragma " ++ String.ofList name ++ " is not a valid identifier"

end ScriptLint.Pragma
