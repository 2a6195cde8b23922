import ScriptLint.Proofs.Source.Stream
import ScriptLint.Proofs.Syntax.Derivation

/-!
# Where nodes lie

A walk through a tree meets nodes that are parts of it. The tokens of a node lie between those of the
rest of the tree, from the offset of the node on, and so do its leaves if no node is empty
(`liesIn_of_mem_sites`).
-/

namespace ScriptLint

open Lexeme (join leavesFrom tokensFrom)
open ScriptLint.Tree (lexemesOf partsOf)

namespace Tree

/-- Whether no node among parts of a tree is empty. -/
def Solid (parts : List Tree) : Prop := ∀ kind, .node kind [] ∉ parts

theorem Solid.mono {few parts : List Tree} (solid : Solid parts) (among : few ⊆ parts) :
    Solid few :=
  fun kind mem => solid kind (among mem)

mutual
/-- The leaves of a tree without empty nodes are its lexemes. -/
theorem leaves_of_solid (t : Tree) (solid : Solid t.parts) (start : Nat) :
    leaves start t = leavesFrom start t.lexemes := by
  cases t with
  | token kind text => rfl
  | node kind children =>
    have some : children ≠ [] := by
      rintro rfl
      exact solid kind List.mem_cons_self
    rw [leaves_node some]
    exact leavesOf_of_solid children (solid.mono (List.subset_cons_self _ _)) start

theorem leavesOf_of_solid (ts : List Tree) (solid : Solid (partsOf ts)) (start : Nat) :
    leavesOf start ts = leavesFrom start (lexemesOf ts) := by
  cases ts with
  | nil => rfl
  | cons t ts =>
    rw [leavesOf, lexemesOf, Lexeme.leavesFrom_append, size_eq,
      leaves_of_solid t (solid.mono (List.subset_append_left _ _)),
      leavesOf_of_solid ts (solid.mono (List.subset_append_right _ _))]
end

end Tree

open ScriptLint.Tree (Solid)

/-- Whether a node is among the parts of trees, where their lexemes start at an offset and have leaves
around them. -/
structure Site.LiesIn (s : Site) (parts : List Tree) (ls : List Lexeme) (start : Nat)
    (before after : List Leaf) : Prop where
  part : .node s.kind s.children ∈ parts
  splits : ∃ read rest, ls = read ++ lexemesOf s.children ++ rest ∧
    s.start = start + Text.size (join read) ∧
    (Solid parts → s.before = (leavesFrom start read).reverse ++ before ∧
      s.inside = leavesFrom s.start (lexemesOf s.children) ∧
      s.after = leavesFrom s.stop rest ++ after)

namespace Site.LiesIn

variable {s : Site} {t : Tree} {ts : List Tree} {start : Nat} {before after : List Leaf}

theorem stop_eq (s : Site) : s.stop = s.start + Text.size (join (lexemesOf s.children)) := by
  rw [Site.stop, Tree.sizeOf_eq]

theorem bounds {parts : List Tree} {ls : List Lexeme} (lies : s.LiesIn parts ls start before after) :
    start ≤ s.start ∧ s.stop ≤ start + Text.size (join ls) := by
  obtain ⟨-, read, rest, rfl, starts, -⟩ := lies
  rw [stop_eq, Lexeme.size_join_append, Lexeme.size_join_append]
  omega

theorem self (kind : SyntaxKind) (children : List Tree) (start : Nat) (before after : List Leaf) :
    (Site.mk kind children start before after).LiesIn (Tree.node kind children).parts
      (lexemesOf children) start before after :=
  ⟨List.mem_cons_self, [], [], by simp, rfl, fun solid =>
    ⟨rfl, Tree.leaves_of_solid (.node kind children) solid start, rfl⟩⟩

theorem below {kind : SyntaxKind} (lies : s.LiesIn (partsOf ts) (lexemesOf ts) start before after) :
    s.LiesIn (Tree.node kind ts).parts (lexemesOf ts) start before after := by
  obtain ⟨part, read, rest, splits, starts, around⟩ := lies
  exact ⟨List.mem_cons_of_mem _ part, read, rest, splits, starts,
    fun solid => around (solid.mono (List.subset_cons_self _ _))⟩

theorem first (lies : s.LiesIn t.parts t.lexemes start before
    (Tree.leavesOf (start + t.size) ts ++ after)) :
    s.LiesIn (partsOf (t :: ts)) (lexemesOf (t :: ts)) start before after := by
  obtain ⟨part, read, rest, splits, starts, around⟩ := lies
  refine ⟨List.mem_append_left _ part, read, rest ++ lexemesOf ts, ?_, starts, fun solid => ?_⟩
  · rw [lexemesOf, splits, List.append_assoc, List.append_assoc]
  · obtain ⟨left, inside, right⟩ := around (solid.mono (List.subset_append_left _ _))
    have size : start + t.size = s.stop + Text.size (join rest) := by
      rw [Tree.size_eq, splits, Lexeme.size_join_append, Lexeme.size_join_append, stop_eq, starts]
      omega
    rw [Tree.leavesOf_of_solid ts (solid.mono (List.subset_append_right _ _)), size] at right
    rw [Lexeme.leavesFrom_append, List.append_assoc]
    exact ⟨left, inside, right⟩

theorem later (lies : s.LiesIn (partsOf ts) (lexemesOf ts) (start + t.size)
    ((t.leaves start).reverse ++ before) after) :
    s.LiesIn (partsOf (t :: ts)) (lexemesOf (t :: ts)) start before after := by
  obtain ⟨part, read, rest, splits, starts, around⟩ := lies
  refine ⟨List.mem_append_right _ part, t.lexemes ++ read, rest, ?_, ?_, fun solid => ?_⟩
  · rw [lexemesOf, splits, List.append_assoc, List.append_assoc, List.append_assoc]
  · rw [starts, Tree.size_eq, Lexeme.size_join_append, Nat.add_assoc]
  · obtain ⟨left, inside, right⟩ := around (solid.mono (List.subset_append_right _ _))
    rw [Tree.leaves_of_solid t (solid.mono (List.subset_append_left _ _)), Tree.size_eq] at left
    rw [Lexeme.leavesFrom_append, List.reverse_append, List.append_assoc]
    exact ⟨left, inside, right⟩

end Site.LiesIn

namespace Tree

mutual
theorem liesIn_of_mem_walkFrom (t : Tree) {start : Nat} {before after : List Leaf}
    {step : Phase × Site} (mem : step ∈ walkFrom before start after t) :
    step.2.LiesIn t.parts t.lexemes start before after := by
  cases t with
  | token kind text => cases mem
  | node kind children =>
    simp only [walkFrom, List.mem_cons, List.mem_append, List.not_mem_nil, or_false] at mem
    rcases mem with rfl | below | rfl
    · exact .self kind children start before after
    · exact (liesIn_of_mem_walkAll children below).below
    · exact .self kind children start before after

theorem liesIn_of_mem_walkAll (ts : List Tree) {start : Nat} {before after : List Leaf}
    {step : Phase × Site} (mem : step ∈ walkAll before start after ts) :
    step.2.LiesIn (partsOf ts) (lexemesOf ts) start before after := by
  cases ts with
  | nil => cases mem
  | cons t ts =>
    rw [walkAll, List.mem_append] at mem
    rcases mem with here | behind
    · exact (liesIn_of_mem_walkFrom t here).first
    · exact (liesIn_of_mem_walkAll ts behind).later
end

end Tree

theorem Source.liesIn_of_mem_sites {source : Source} {s : Site} (mem : s ∈ source.sites) :
    s.LiesIn source.tree.parts source.tree.lexemes 0 [] [] := by
  obtain ⟨step, walked, met⟩ := List.mem_filterMap.1 mem
  split at met
  · obtain rfl := Option.some.inj met
    exact Tree.liesIn_of_mem_walkFrom _ walked
  · cases met

/-- A text with the tree that it is parsed into. -/
def Source.ofText (text : Text) : Source := ⟨text, (parse text).tree⟩

section
variable {text : Text} {s : Site} (mem : s ∈ (Source.ofText text).sites)
include mem

/-- The tokens in the span of a node are its own. -/
theorem inside_ofTree : TokenStream.inside s.span (TokenStream.ofTree (parse text).tree) =
    tokensFrom s.start (lexemesOf s.children) := by
  obtain ⟨-, read, rest, splits, starts, -⟩ := Source.liesIn_of_mem_sites mem
  have splits : (parse text).tree.lexemes = read ++ lexemesOf s.children ++ rest := splits
  have ordered := TokenStream.ordered_ofTree text
  rw [TokenStream.ofTree, splits] at ordered ⊢
  exact TokenStream.inside_tokensFrom ordered starts (Site.LiesIn.stop_eq s)

theorem map_plain_inside : (TokenStream.inside s.span (TokenStream.ofText text)).map Token.plain =
    (tokensFrom s.start (lexemesOf s.children)).map Token.plain := by
  rw [← TokenStream.inside_map_plain, ← TokenStream.map_plain_ofTree, TokenStream.inside_map_plain,
    inside_ofTree mem]

/-- Nodes other than the program are parts of what the program is made of. -/
theorem exists_of_ne_program (other : s.kind ≠ .program) :
    ∃ t ∈ (programBody (lex text).lexemes).out, .node s.kind s.children ∈ t.parts := by
  have part := (Source.liesIn_of_mem_sites mem).part
  rcases List.mem_cons.1 part with root | below
  · have kind : s.kind = .program := by injection root
    exact absurd kind other
  · exact Tree.mem_partsOf.1 below

end

end ScriptLint
