import ScriptLint.Syntax.Tree

/-!
# Tree builders

A tree builder puts a tree together piece by piece: nodes are opened and closed, and tokens go into
the innermost open node. A mark notes the place that is reached, so that a node can be opened there
later on, around everything that came in since.

A builder refuses what makes no tree. A node is closed only if one is open, a node is opened at a
mark only if the mark still names a place in the innermost open node, and a tree is finished only
when no node is open and a single node is all there is.
-/

namespace ScriptLint

/-- The open nodes, innermost first, each with the number of trees that stood before its first
child; and the trees that no closed node holds, in the order in which they came in. -/
structure TreeBuilder where
  opens : List (SyntaxKind × Nat)
  trees : List Tree

inductive BuilderFault where
  | staleMark
  | nothingOpen
  | leftOpen
  | notOneNode
  deriving DecidableEq, Repr

namespace TreeBuilder

def empty : TreeBuilder := ⟨[], []⟩

def token (b : TreeBuilder) (kind : SyntaxKind) (text : Text) : TreeBuilder :=
  { b with trees := b.trees ++ [.token kind text] }

def mark (b : TreeBuilder) : Nat := b.trees.length

def start (b : TreeBuilder) (kind : SyntaxKind) : TreeBuilder :=
  { b with opens := (kind, b.mark) :: b.opens }

def startAt (b : TreeBuilder) (mark : Nat) (kind : SyntaxKind) : Except BuilderFault TreeBuilder :=
  if mark ≤ b.trees.length ∧ ∀ node ∈ b.opens.head?, node.2 ≤ mark then
    .ok { b with opens := (kind, mark) :: b.opens }
  else .error .staleMark

def close (b : TreeBuilder) : Except BuilderFault TreeBuilder :=
  match b.opens with
  | [] => .error .nothingOpen
  | (kind, first) :: opens =>
    if first ≤ b.trees.length then
      .ok ⟨opens, b.trees.take first ++ [.node kind (b.trees.drop first)]⟩
    else .error .staleMark

def finish (b : TreeBuilder) : Except BuilderFault Tree :=
  match b.opens, b.trees with
  | [], [.node kind children] => .ok (.node kind children)
  | [], _ => .error .notOneNode
  | _ :: _, _ => .error .leftOpen

/-- The builder with more trees in its innermost open node. -/
def grow (b : TreeBuilder) (trees : List Tree) : TreeBuilder := { b with trees := b.trees ++ trees }

/-- Whether the innermost open node was opened at a place that the builder still has. -/
def Ready (b : TreeBuilder) : Prop := ∀ node ∈ b.opens.head?, node.2 ≤ b.mark

variable {b : TreeBuilder}

@[simp] theorem grow_nil : b.grow [] = b := by simp [grow]

@[simp] theorem grow_grow (s t : List Tree) : (b.grow s).grow t = b.grow (s ++ t) := by
  simp [grow]

theorem token_eq_grow (kind : SyntaxKind) (text : Text) :
    b.token kind text = b.grow [.token kind text] := rfl

theorem Ready.grow (h : b.Ready) (trees : List Tree) : (b.grow trees).Ready := by
  intro node mem
  have := h node mem
  simp only [mark, TreeBuilder.grow, List.length_append] at this ⊢
  omega

/-- The builder with a node opened around trees that come in behind it. -/
def opened (b : TreeBuilder) (kind : SyntaxKind) (held : List Tree) : TreeBuilder :=
  ⟨(kind, b.mark) :: b.opens, b.trees ++ held⟩

theorem start_eq_opened (kind : SyntaxKind) : b.start kind = b.opened kind [] := by
  simp [start, opened]

theorem ready_opened (kind : SyntaxKind) (held : List Tree) : (b.opened kind held).Ready := by
  intro node mem
  obtain rfl : (kind, b.mark) = node := by simpa [opened] using mem
  simp [mark, opened]

/-- A node opened at a mark takes in all that came in behind the mark. -/
theorem startAt_mark (h : b.Ready) (held : List Tree) (kind : SyntaxKind) :
    (b.grow held).startAt b.mark kind = .ok (b.opened kind held) := by
  have fits : b.mark ≤ (b.grow held).trees.length := by simp [mark, TreeBuilder.grow]
  exact if_pos ⟨fits, h⟩

theorem close_opened (kind : SyntaxKind) (held children : List Tree) :
    ((b.opened kind held).grow children).close = .ok (b.grow [.node kind (held ++ children)]) := by
  simp [close, mark, TreeBuilder.grow, opened]

end TreeBuilder

end ScriptLint
