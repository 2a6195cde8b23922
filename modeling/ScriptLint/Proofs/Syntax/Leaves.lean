import Mathlib.Data.List.Forall2
import ScriptLint.Syntax.Tree
import ScriptLint.Syntax.Grammar.Operator

/-!
# Leaves of a tree

The leaves of a tree are its tokens, and each stands in nodes whose kinds matter to it: a reserved
word that names a property is stored as a name, and the word `of` in the head of a loop as a
keyword. `Lexeme.stored` says as what a lexeme is stored in its place, and `Spells` that the leaves
of trees are given lexemes, each stored as its place demands.
-/

namespace ScriptLint

namespace Tree

mutual
/-- The tokens of the tree from left to right, each with the kinds of the nodes around it, innermost
first. -/
def placed (around : List SyntaxKind) : Tree → List (List SyntaxKind × Lexeme)
  | .token kind text => [(around, ⟨kind, text⟩)]
  | .node kind children => placedAll (kind :: around) children

def placedAll (around : List SyntaxKind) : List Tree → List (List SyntaxKind × Lexeme)
  | [] => []
  | t :: ts => placed around t ++ placedAll around ts
end

theorem placedAll_append (around : List SyntaxKind) (s t : List Tree) :
    placedAll around (s ++ t) = placedAll around s ++ placedAll around t := by
  induction s with
  | nil => rfl
  | cons x xs ih => simp [placedAll, ih]

mutual
theorem map_placed (around : List SyntaxKind) (t : Tree) :
    (t.placed around).map Prod.snd = t.lexemes := by
  cases t with
  | token kind text => rfl
  | node kind children => exact map_placedAll (kind :: around) children

theorem map_placedAll (around : List SyntaxKind) (ts : List Tree) :
    (placedAll around ts).map Prod.snd = lexemesOf ts := by
  cases ts with
  | nil => rfl
  | cons t ts => simp [placedAll, lexemesOf, map_placed around t, map_placedAll around ts]
end

end Tree

/-- Whether a node of this kind may store a token of its own as one of another kind. -/
def SyntaxKind.storesWords : SyntaxKind → Bool
  | .identifier | .forOfStatement => true
  | _ => false

namespace Lexeme

/-- Whether nodes of these kinds, innermost first, make the place of the name of a property. -/
def isPropertyName : List SyntaxKind → Bool
  | .identifier :: .memberExpression :: _ => true
  | .identifier :: .property :: _ => true
  | _ => false

/-- The lexeme as it stands in a tree, in nodes of these kinds. -/
def stored (l : Lexeme) (around : List SyntaxKind) : Lexeme :=
  if isPropertyName around ∧ l.kind.isKeyword then ⟨.ident, l.text⟩
  else if around.head? = some .forOfStatement ∧ l = ⟨.ident, ['o', 'f']⟩ then ⟨.ofKeyword, l.text⟩
  else l

/-- Whether a leaf is a lexeme, stored as its place demands. -/
def StoredAs (l : Lexeme) (leaf : List SyntaxKind × Lexeme) : Prop := leaf.2 = l.stored leaf.1

@[simp] theorem text_stored (l : Lexeme) (around : List SyntaxKind) :
    (l.stored around).text = l.text := by
  unfold stored
  split
  · rfl
  · split <;> rfl

theorem stored_of_not_word {l : Lexeme} (around : List SyntaxKind)
    (word : l.kind.namesProperty = false) :
    l.stored around = l := by
  simp only [SyntaxKind.namesProperty, Bool.or_eq_false_iff, beq_eq_false_iff_ne] at word
  unfold stored
  rw [if_neg (by simp [word.2]), if_neg (fun h => word.1 (by rw [h.2]))]

theorem stored_of_trivia {l : Lexeme} (around : List SyntaxKind) (h : l.isTrivia = true) :
    l.stored around = l := by
  apply stored_of_not_word around
  unfold isTrivia at h
  cases kind : l.kind <;> simp_all <;> revert h <;> decide

/-- Inside a node of kind `k` that stands in an admitted place. -/
def Inside (k : SyntaxKind) (Place : List SyntaxKind → Prop) (around : List SyntaxKind) : Prop :=
  ∃ outer, Place outer ∧ around = k :: outer

/-- No demand on the nodes around. -/
def Anywhere (_ : List SyntaxKind) : Prop := True

theorem stored_of_inside {l : Lexeme} {k : SyntaxKind} {Place : List SyntaxKind → Prop}
    {around : List SyntaxKind} (h : Inside k Place around) (plain : k.storesWords = false) :
    l.stored around = l := by
  obtain ⟨outer, _, rfl⟩ := h
  have property : isPropertyName (k :: outer) = false := by
    unfold isPropertyName
    split <;> simp_all [SyntaxKind.storesWords]
  have loop : k ≠ .forOfStatement := fun eq => by simp [eq, SyntaxKind.storesWords] at plain
  unfold stored
  rw [if_neg (by simp [property]), if_neg (by simp [loop])]

end Lexeme

/-- Whether the leaves of trees are the given lexemes, wherever `Place` lets the trees stand. -/
def Spells (Place : List SyntaxKind → Prop) (ls : List Lexeme) (ts : List Tree) : Prop :=
  ∀ around, Place around → List.Forall₂ Lexeme.StoredAs ls (Tree.placedAll around ts)

section
variable {Place Narrow : List SyntaxKind → Prop} {ls more : List Lexeme} {ts trees : List Tree}

theorem spells_nil : Spells Place [] [] := fun _ _ => .nil

theorem Spells.mono (h : Spells Place ls ts) (narrow : ∀ around, Narrow around → Place around) :
    Spells Narrow ls ts :=
  fun around at_ => h around (narrow around at_)

theorem Spells.anywhere (h : Spells Lexeme.Anywhere ls ts) : Spells Place ls ts :=
  h.mono fun _ _ => trivial

theorem Spells.append (h : Spells Place ls ts) (h' : Spells Place more trees) :
    Spells Place (ls ++ more) (ts ++ trees) := by
  intro around at_
  rw [Tree.placedAll_append]
  exact List.rel_append (h around at_) (h' around at_)

theorem spells_token {l : Lexeme} {kind : SyntaxKind}
    (h : ∀ around, Place around → l.stored around = ⟨kind, l.text⟩) :
    Spells Place [l] [.token kind l.text] :=
  fun around at_ => .cons (h around at_).symm .nil

/-- Trivia is stored as it is, in any place. -/
theorem spells_trivia (trivia : ∀ l ∈ ls, l.isTrivia = true) :
    Spells Place ls (ls.map Tree.ofLexeme) := by
  induction ls with
  | nil => exact spells_nil
  | cons l ls ih =>
    have first : Spells Place [l] [.ofLexeme l] :=
      spells_token fun around _ => Lexeme.stored_of_trivia around (trivia l List.mem_cons_self)
    exact first.append (ih fun l mem => trivia l (List.mem_cons_of_mem _ mem))

theorem spells_node {kind : SyntaxKind} (h : Spells (Lexeme.Inside kind Place) ls ts) :
    Spells Place ls [.node kind ts] := by
  intro around at_
  simpa [Tree.placedAll, Tree.placed] using h (kind :: around) ⟨around, at_, rfl⟩

end

end ScriptLint
