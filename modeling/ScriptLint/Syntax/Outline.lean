import ScriptLint.Syntax.Tree
import ScriptLint.Text.Quoted

/-!
# Outlines

A tree as a list of its nodes and tokens in pre-order, each with its depth and its span.
-/

namespace ScriptLint

/-- A node or, if it has a text, a token of a tree. -/
structure Entry where
  depth : Nat
  kind : SyntaxKind
  span : Span
  text : Option Text

namespace Tree

mutual
def entries (depth start : Nat) : Tree → List Entry
  | .token kind text => [⟨depth, kind, ⟨start, start + Text.size text⟩, some text⟩]
  | .node kind children =>
    ⟨depth, kind, ⟨start, start + sizeOf children⟩, none⟩ :: entriesOf (depth + 1) start children

def entriesOf (depth start : Nat) : List Tree → List Entry
  | [] => []
  | t :: ts => entries depth start t ++ entriesOf depth (start + size t) ts
end

/-- The tree from the offset 0 on. -/
def outline (t : Tree) : List Entry := entries 0 0 t

end Tree

/-- One line of a listing: two blanks for each level, kind, span, and the text of a token. -/
def Entry.listing (e : Entry) : String :=
  let indent := String.ofList (List.replicate (2 * e.depth) ' ')
  let text := match e.text with
    | some text => " " ++ Text.quoted text
    | none => ""
  indent ++ e.kind.name ++ "@" ++ e.span.render ++ text

/-- The lines of the listing of a whole tree. -/
def Tree.listing (t : Tree) : List String := t.outline.map Entry.listing

end ScriptLint
