import ScriptLint.Syntax.Tree
import ScriptLint.Text.Lines

/-!
# Parsed sources

A source is a text with a tree. Rules ask it for the tokens and comments around a node and for the
lines and columns of offsets.

The leaves of a tree are its tokens and its empty nodes, in document order. A `Place` is a token
among the leaves, a `Site` a node among them. Neighbours are looked for leaf by leaf, and an empty
node ends the search: it hides what lies behind it. Only the first token of a node is found past
empty nodes (`Site.firstToken?`).
-/

namespace ScriptLint

/-- A token with the offset at which it starts. -/
structure Token where
  kind : SyntaxKind
  text : Text
  start : Nat
  deriving DecidableEq, Repr

namespace Token

def stop (t : Token) : Nat := t.start + Text.size t.text

def span (t : Token) : Span := ⟨t.start, t.stop⟩

def isTrivia (t : Token) : Bool := t.kind.isTrivia

def isComment (t : Token) : Bool := t.kind.isComment

end Token

inductive Leaf where
  | token (t : Token)
  | hole
  deriving DecidableEq, Repr

namespace Leaf

def token? : Leaf → Option Token
  | .token t => some t
  | .hole => none

def isTrivia (l : Leaf) : Bool := l.token?.any Token.isTrivia

end Leaf

namespace Tree

mutual
def leaves (start : Nat) : Tree → List Leaf
  | .token kind text => [.token ⟨kind, text, start⟩]
  | .node _ [] => [.hole]
  | .node _ (child :: children) =>
    leaves start child ++ leavesOf (start + size child) children

def leavesOf (start : Nat) : List Tree → List Leaf
  | [] => []
  | t :: ts => leaves start t ++ leavesOf (start + size t) ts
end

end Tree

/-- A token among the leaves of a tree: those before it, nearest first, and those behind it. -/
structure Place where
  before : List Leaf
  token : Token
  after : List Leaf

namespace Place

/-- The nearest significant token going back from a gap in the leaves. -/
def backFrom : (before after : List Leaf) → Option Place
  | .token t :: before, after =>
    if t.isTrivia then backFrom before (.token t :: after) else some ⟨before, t, after⟩
  | _, _ => none

/-- The nearest significant token going on from a gap in the leaves. -/
def onFrom : (before after : List Leaf) → Option Place
  | before, .token t :: after =>
    if t.isTrivia then onFrom (.token t :: before) after else some ⟨before, t, after⟩
  | _, _ => none

def significantBefore? (p : Place) : Option Place := backFrom p.before (.token p.token :: p.after)

def significantAfter? (p : Place) : Option Place := onFrom (.token p.token :: p.before) p.after

/-- The run of trivia next to the place in a list of leaves, nearest first. -/
def triviaRun (leaves : List Leaf) : List Token :=
  (leaves.takeWhile Leaf.isTrivia).filterMap Leaf.token?

def commentsBefore (p : Place) : List Token :=
  ((triviaRun p.before).filter Token.isComment).reverse

def commentsAfter (p : Place) : List Token := (triviaRun p.after).filter Token.isComment

/-- The trivia behind the first place that starts before the second one. -/
def triviaBetween (first second : Place) : List Token :=
  (triviaRun first.after).takeWhile fun t => t.start < second.token.start

/-- Whether white space lies between two places. The inside of a comment does not count. -/
def spaceBetween (first second : Place) : Bool :=
  (triviaBetween first second).any fun t => t.kind == .whitespace

/-- All tokens of a run of leaves, each in its place; `before` and `after` surround the run. -/
def ofLeaves (before : List Leaf) : (inside after : List Leaf) → List Place
  | [], _ => []
  | .token t :: inside, after =>
    ⟨before, t, inside ++ after⟩ :: ofLeaves (.token t :: before) inside after
  | .hole :: inside, after => ofLeaves (.hole :: before) inside after

/-- The first significant token of a run of leaves; empty nodes are passed over. -/
def firstOf (before : List Leaf) : (inside after : List Leaf) → Option Place
  | [], _ => none
  | .token t :: inside, after =>
    if t.isTrivia then firstOf (.token t :: before) inside after
    else some ⟨before, t, inside ++ after⟩
  | .hole :: inside, after => firstOf (.hole :: before) inside after

end Place

/-- A node among the leaves of a tree: its kind and children, the offset at which it starts, the
leaves before it, nearest first, and those behind it. -/
structure Site where
  kind : SyntaxKind
  children : List Tree
  start : Nat
  before : List Leaf
  after : List Leaf

namespace Site

def stop (s : Site) : Nat := s.start + Tree.sizeOf s.children

/-- The stretch of text that the node covers, trivia inside it included. -/
def span (s : Site) : Span := ⟨s.start, s.stop⟩

def inside (s : Site) : List Leaf := Tree.leaves s.start (.node s.kind s.children)

def firstToken? (s : Site) : Option Place := Place.firstOf s.before s.inside s.after

/-- The last significant token, found from the end of the node; nothing if an empty node is in the
way. -/
def lastToken? (s : Site) : Option Place :=
  (Place.backFrom (s.inside.reverse ++ s.before) s.after).filter fun p => s.start ≤ p.token.start

def tokenBefore? (s : Site) : Option Place := s.firstToken?.bind Place.significantBefore?

def tokenAfter? (s : Site) : Option Place := s.lastToken?.bind Place.significantAfter?

def commentsBefore (s : Site) : List Token := (s.firstToken?.map Place.commentsBefore).getD []

def commentsAfter (s : Site) : List Token := (s.lastToken?.map Place.commentsAfter).getD []

/-- The nodes among a run of sibling trees. -/
def ofSiblings (before : List Leaf) (start : Nat) (after : List Leaf) : List Tree → List Site
  | [] => []
  | t :: ts =>
    let rest := ofSiblings ((Tree.leaves start t).reverse ++ before) (start + t.size) after ts
    match t with
    | .token _ _ => rest
    | .node kind children =>
      ⟨kind, children, start, before, Tree.leavesOf (start + t.size) ts ++ after⟩ :: rest

/-- The nodes right below a node. -/
def childSites (s : Site) : List Site := ofSiblings s.before s.start s.after s.children

end Site

/-- Whether a node is met on the way down, before its children, or on the way up. -/
inductive Phase where
  | enter
  | leave
  deriving DecidableEq, Hashable, Repr

def Phase.name : Phase → String
  | enter => "Enter"
  | leave => "Exit"

namespace Tree

mutual
/-- A walk through the tree in document order that meets every node twice. -/
def walkFrom (before : List Leaf) (start : Nat) (after : List Leaf) :
    Tree → List (Phase × Site)
  | .token _ _ => []
  | .node kind children =>
    let site : Site := ⟨kind, children, start, before, after⟩
    (.enter, site) :: (walkAll before start after children ++ [(.leave, site)])

def walkAll (before : List Leaf) (start : Nat) (after : List Leaf) :
    List Tree → List (Phase × Site)
  | [] => []
  | t :: ts =>
    walkFrom before start (leavesOf (start + t.size) ts ++ after) t ++
      walkAll ((leaves start t).reverse ++ before) (start + t.size) after ts
end

def walk (t : Tree) : List (Phase × Site) := walkFrom [] 0 [] t

end Tree

structure Source where
  text : Text
  tree : Tree

namespace Source

def lines (s : Source) : LineTable := LineTable.ofText s.text

def position (s : Source) (offset : Nat) : Position := s.lines.position s.text offset

/-- The text in a span, empty if the span does not fit the text. -/
def textOf (s : Source) (span : Span) : Text := Text.between s.text span.start span.stop

def leaves (s : Source) : List Leaf := s.tree.leaves 0

def places (s : Source) : List Place := Place.ofLeaves [] s.leaves []

/-- All nodes, each before the nodes inside it. -/
def sites (s : Source) : List Site :=
  s.tree.walk.filterMap fun step => if step.1 = .enter then some step.2 else none

/-- The significant tokens of the file. -/
def tokens (s : Source) : List Place := s.places.filter fun p => ! p.token.isTrivia

def comments (s : Source) : List Token :=
  (s.leaves.filterMap Leaf.token?).filter Token.isComment

end Source

end ScriptLint
