import Mathlib.Data.List.Basic
import ScriptLint.Proofs.Source.Nodes

/-!
# The nodes that a walk enters and leaves

A walk through a tree enters its nodes in the order of its parts (`map_node_sites`). Of two nodes the
later one lies inside the earlier one or starts behind it (`sites_apart`). It leaves every node behind
those inside it (`map_node_left`), and what it does between entering a node and leaving it is to enter
and leave the nodes inside it (`exists_inside`).
-/

namespace ScriptLint

open ScriptLint.Tree (partsOf)

def Tree.isNode : Tree → Bool
  | .token _ _ => false
  | .node _ _ => true

/-- The tree of a site. -/
def Site.node (s : Site) : Tree := .node s.kind s.children

namespace Tree

variable {before after : List Leaf} {start : Nat} {s : Site}

/-- The nodes that the steps of a walk enter. -/
def entered (walk : List (Phase × Site)) : List Site :=
  walk.filterMap fun step => if step.1 = .enter then some step.2 else none

/-- The nodes that the steps of a walk leave. -/
def left (walk : List (Phase × Site)) : List Site :=
  walk.filterMap fun step => if step.1 = .leave then some step.2 else none

mutual
/-- The nodes of a tree, each behind those inside it. -/
def postorder : Tree → List Tree
  | .token _ _ => []
  | .node kind children => postorderOf children ++ [.node kind children]

def postorderOf : List Tree → List Tree
  | [] => []
  | t :: ts => postorder t ++ postorderOf ts
end

theorem entered_append (walk more : List (Phase × Site)) :
    entered (walk ++ more) = entered walk ++ entered more := List.filterMap_append

theorem mem_entered {walk : List (Phase × Site)} : s ∈ entered walk ↔ (Phase.enter, s) ∈ walk := by
  simp [entered]

theorem entered_walkFrom (before : List Leaf) (start : Nat) (after : List Leaf) (kind : SyntaxKind)
    (children : List Tree) : entered (walkFrom before start after (.node kind children)) =
      ⟨kind, children, start, before, after⟩ :: entered (walkAll before start after children) := by
  simp [entered, walkFrom]

mutual
theorem map_node_walkFrom (before : List Leaf) (start : Nat) (after : List Leaf) (t : Tree) :
    (entered (walkFrom before start after t)).map Site.node = t.parts.filter isNode := by
  cases t with
  | token kind text => rfl
  | node kind children =>
    rw [entered_walkFrom, List.map_cons, map_node_walkAll]
    rfl

theorem map_node_walkAll (before : List Leaf) (start : Nat) (after : List Leaf) (ts : List Tree) :
    (entered (walkAll before start after ts)).map Site.node = (partsOf ts).filter isNode := by
  cases ts with
  | nil => rfl
  | cons t ts =>
    rw [walkAll, entered_append, List.map_append, map_node_walkFrom, map_node_walkAll, partsOf,
      List.filter_append]
end

mutual
theorem map_node_left_walkFrom (before : List Leaf) (start : Nat) (after : List Leaf) (t : Tree) :
    (left (walkFrom before start after t)).map Site.node = t.postorder := by
  cases t with
  | token kind text => rfl
  | node kind children =>
    rw [postorder, ← map_node_left_walkAll before start after children]
    simp [left, walkFrom, Site.node]

theorem map_node_left_walkAll (before : List Leaf) (start : Nat) (after : List Leaf) (ts : List Tree) :
    (left (walkAll before start after ts)).map Site.node = postorderOf ts := by
  cases ts with
  | nil => rfl
  | cons t ts =>
    have joined (walk more : List (Phase × Site)) : left (walk ++ more) = left walk ++ left more :=
      List.filterMap_append
    rw [walkAll, joined, List.map_append, map_node_left_walkFrom, map_node_left_walkAll, postorderOf]
end

theorem bounds_of_mem_walkFrom {t : Tree} (mem : s ∈ entered (walkFrom before start after t)) :
    start ≤ s.start ∧ s.stop ≤ start + t.size := by
  rw [size_eq]
  exact (liesIn_of_mem_walkFrom t (mem_entered.1 mem)).bounds

theorem start_le_of_mem_walkAll {ts : List Tree} (mem : s ∈ entered (walkAll before start after ts)) :
    start ≤ s.start :=
  (liesIn_of_mem_walkAll ts (mem_entered.1 mem)).bounds.1

end Tree

/-- The nodes inside a node, in document order. -/
def Site.below (s : Site) : List Site := Tree.entered (Tree.walkAll s.before s.start s.after s.children)

/-- Whether a walk has a node with the nodes inside it between its two steps. -/
def Site.Encloses (s : Site) (walk : List (Phase × Site)) : Prop :=
  ∃ before inside behind, walk = before ++ (.enter, s) :: (inside ++ (.leave, s) :: behind) ∧
    Tree.entered inside = s.below ∧ (Tree.left inside).map Site.node = Tree.postorderOf s.children

theorem Site.Encloses.append {s : Site} {walk : List (Phase × Site)} (encloses : s.Encloses walk)
    (before behind : List (Phase × Site)) : s.Encloses (before ++ walk ++ behind) := by
  obtain ⟨front, inside, back, rfl, within, order⟩ := encloses
  exact ⟨before ++ front, inside, back ++ behind, by simp, within, order⟩

/-- Whether a node lies inside another one or starts behind it. -/
def Site.Precedes (s next : Site) : Prop := next ∈ s.below ∨ s.stop ≤ next.start

namespace Tree

mutual
theorem pairwise_walkFrom (before : List Leaf) (start : Nat) (after : List Leaf) (t : Tree) :
    (entered (walkFrom before start after t)).Pairwise Site.Precedes := by
  cases t with
  | token kind text => exact .nil
  | node kind children =>
    rw [entered_walkFrom]
    exact .cons (fun inner mem => .inl mem) (pairwise_walkAll before start after children)

theorem pairwise_walkAll (before : List Leaf) (start : Nat) (after : List Leaf) (ts : List Tree) :
    (entered (walkAll before start after ts)).Pairwise Site.Precedes := by
  cases ts with
  | nil => exact .nil
  | cons t ts =>
    rw [walkAll, entered_append, List.pairwise_append]
    refine ⟨pairwise_walkFrom _ start _ t, pairwise_walkAll _ _ after ts, ?_⟩
    intro s here next later
    have stop := (bounds_of_mem_walkFrom here).2
    exact .inr (stop.trans (start_le_of_mem_walkAll later))
end

mutual
theorem encloses_walkFrom {before : List Leaf} {start : Nat} {after : List Leaf} {t : Tree}
    (mem : s ∈ entered (walkFrom before start after t)) :
    s.Encloses (walkFrom before start after t) := by
  cases t with
  | token kind text => cases mem
  | node kind children =>
    rw [entered_walkFrom] at mem
    rcases List.mem_cons.1 mem with rfl | inner
    · exact ⟨[], walkAll before start after children, [], rfl, rfl, map_node_left_walkAll _ _ _ _⟩
    · exact (encloses_walkAll inner).append [(.enter, _)] [(.leave, _)]

theorem encloses_walkAll {before : List Leaf} {start : Nat} {after : List Leaf} {ts : List Tree}
    (mem : s ∈ entered (walkAll before start after ts)) :
    s.Encloses (walkAll before start after ts) := by
  cases ts with
  | nil => cases mem
  | cons t ts =>
    rw [walkAll, entered_append] at mem
    rw [walkAll]
    rcases List.mem_append.1 mem with here | later
    · exact (encloses_walkFrom here).append [] _
    · simpa using (encloses_walkAll later).append (walkFrom before start _ t) []
end

end Tree

namespace Source

variable (source : Source)

/-- All nodes of a tree are met, in the order of its parts. -/
theorem map_node_sites : source.sites.map Site.node = source.tree.parts.filter Tree.isNode :=
  Tree.map_node_walkFrom [] 0 [] source.tree

/-- All nodes are left, each behind those inside it. -/
theorem map_node_left : (Tree.left source.tree.walk).map Site.node = source.tree.postorder :=
  Tree.map_node_left_walkFrom [] 0 [] source.tree

/-- Between entering a node and leaving it, a walk enters and leaves the nodes inside it. -/
theorem exists_inside {s : Site} (mem : s ∈ source.sites) : ∃ before inside behind,
    source.tree.walk = before ++ (.enter, s) :: (inside ++ (.leave, s) :: behind) ∧
      Tree.entered inside = s.below ∧ (Tree.left inside).map Site.node = Tree.postorderOf s.children :=
  Tree.encloses_walkFrom mem

theorem sites_apart : source.sites.Pairwise Site.Precedes :=
  Tree.pairwise_walkFrom [] 0 [] source.tree

/-- What is gathered where a walk enters a node is gathered node by node. -/
theorem flatMap_walk {α : Type} (f : Phase × Site → List α) (leave : ∀ s, f (.leave, s) = []) :
    source.tree.walk.flatMap f = source.sites.flatMap fun s => f (.enter, s) := by
  rw [sites, List.filterMap_eq_flatMap_toList, List.flatMap_assoc]
  apply List.flatMap_congr
  rintro ⟨phase, s⟩ -
  cases phase with
  | enter => exact (List.append_nil _).symm
  | leave => exact leave s

end Source

end ScriptLint
