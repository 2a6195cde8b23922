import ScriptLint.Source
import ScriptLint.Proofs.Syntax.Neatness

/-!
# The tokens of a source

Lexemes one behind another are tokens, each with its offset. They are the leaves of trees without empty
nodes.
-/

namespace ScriptLint

open Lexeme (join)

namespace Lexeme

/-- Lexemes as tokens of a text, from an offset on. -/
def tokensFrom (start : Nat) : List Lexeme → List Token
  | [] => []
  | l :: ls => ⟨l.kind, l.text, start⟩ :: tokensFrom (start + Text.size l.text) ls

def leavesFrom (start : Nat) (ls : List Lexeme) : List Leaf := (tokensFrom start ls).map .token

variable {ls more : List Lexeme} {start : Nat}

theorem tokensFrom_append (start : Nat) (ls more : List Lexeme) :
    tokensFrom start (ls ++ more) =
      tokensFrom start ls ++ tokensFrom (start + Text.size (join ls)) more := by
  induction ls generalizing start with
  | nil => simp [tokensFrom, join]
  | cons l ls ih => simp [tokensFrom, ih, join_cons, Nat.add_assoc]

theorem leavesFrom_append (start : Nat) (ls more : List Lexeme) :
    leavesFrom start (ls ++ more) =
      leavesFrom start ls ++ leavesFrom (start + Text.size (join ls)) more := by
  simp [leavesFrom, tokensFrom_append]

/-- The leaves before a place, nearest first. -/
def leavesBefore (read : List Lexeme) : List Leaf := (leavesFrom 0 read).reverse

theorem leavesBefore_append (read ls : List Lexeme) :
    (leavesFrom (Text.size (join read)) ls).reverse ++ leavesBefore read =
      leavesBefore (read ++ ls) := by
  simp [leavesBefore, leavesFrom_append]

theorem isTrivia_tokensFrom (trivia : ∀ l ∈ ls, l.isTrivia = true) :
    ∀ t ∈ tokensFrom start ls, t.isTrivia = true := by
  induction ls generalizing start with
  | nil => simp [tokensFrom]
  | cons l ls ih =>
    intro t mem
    rcases List.mem_cons.1 mem with rfl | later
    · exact trivia l List.mem_cons_self
    · exact ih (fun l mem => trivia l (List.mem_cons_of_mem _ mem)) t later

end Lexeme

open Lexeme

namespace Tree

mutual
theorem size_eq (t : Tree) : t.size = Text.size (join t.lexemes) := by
  cases t with
  | token kind text => simp [size, lexemes, join]
  | node kind children => exact sizeOf_eq children

theorem sizeOf_eq (ts : List Tree) : sizeOf ts = Text.size (join (lexemesOf ts)) := by
  cases ts with
  | nil => rfl
  | cons t ts => rw [sizeOf, lexemesOf, size_join_append, size_eq t, sizeOf_eq ts]
end

theorem leavesOf_of_all {ts : List Tree}
    (all : ∀ t ∈ ts, ∀ start, leaves start t = leavesFrom start t.lexemes) (start : Nat) :
    leavesOf start ts = leavesFrom start (lexemesOf ts) := by
  induction ts generalizing start with
  | nil => rfl
  | cons t ts ih =>
    rw [leavesOf, lexemesOf, leavesFrom_append, all t List.mem_cons_self, size_eq,
      ih fun t mem => all t (List.mem_cons_of_mem _ mem)]

theorem leaves_node {kind : SyntaxKind} {children : List Tree} (some : children ≠ []) (start : Nat) :
    leaves start (.node kind children) = leavesOf start children := by
  obtain ⟨t, ts, rfl⟩ := List.exists_cons_of_ne_nil some
  rfl

end Tree

end ScriptLint
