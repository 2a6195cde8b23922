import ScriptLint.Proofs.Rules.Rows
import ScriptLint.Proofs.Source.Tokens

/-!
# Places in a text

In a tree without empty nodes the leaves are the lexemes, one behind another (`Formed.leaves`), so
what a rule asks of a place can be told from the lexemes before it: the token before is the last
significant one of them, and the trivia between are those that they end with.
-/

namespace ScriptLint

open Lexeme (join triviaBehind upToLast lastOf)

open Lexeme

namespace Tree

/-- The leaves of a tree without empty nodes are its lexemes. -/
theorem Formed.leaves {t : Tree} (formed : t.Formed) (start : Nat) :
    Tree.leaves start t = leavesFrom start t.lexemes := by
  induction formed generalizing start with
  | token => rfl
  | literal => rfl
  | @tagged tag gap text _ ends trivia ih =>
    rw [leaves_node (by simp)]
    refine leavesOf_of_all (fun t mem start => ?_) start
    rcases List.mem_append.1 mem with first | template
    · rcases List.mem_append.1 first with inTag | inGap
      · exact ih t inTag start
      · obtain ⟨l, -, rfl⟩ := List.mem_map.1 inGap
        rfl
    · obtain rfl := List.mem_singleton.1 template
      rfl
  | node plain some _ ih =>
    rw [leaves_node some]
    exact leavesOf_of_all ih start

end Tree

namespace Place

variable {read : List Lexeme} {p : Lexeme} {after : List Leaf}

theorem backFrom_trivia {rs : List Token} (trivia : ∀ t ∈ rs, t.isTrivia = true)
    (before after : List Leaf) :
    backFrom (rs.map .token ++ before) after =
      backFrom before ((rs.reverse.map .token) ++ after) := by
  induction rs generalizing after with
  | nil => rfl
  | cons t rs ih =>
    rw [List.map_cons, List.cons_append, backFrom, if_pos (trivia t List.mem_cons_self),
      ih fun t mem => trivia t (List.mem_cons_of_mem _ mem)]
    simp

theorem leavesBefore_eq (read : List Lexeme) : leavesBefore read =
    (tokensFrom (Text.size (join (upToLast read))) (triviaBehind read)).reverse.map .token ++
      leavesBefore (upToLast read) := by
  have parts := leavesBefore_append (upToLast read) (triviaBehind read)
  rw [upToLast_append_triviaBehind] at parts
  rw [← parts, leavesFrom, List.map_reverse]

theorem isTrivia_between (read : List Lexeme) (start : Nat) :
    ∀ t ∈ (tokensFrom start (triviaBehind read)).reverse, t.isTrivia = true :=
  fun t mem => isTrivia_tokensFrom (fun _ => isTrivia_of_mem_triviaBehind) t (List.mem_reverse.1 mem)

/-- The token before a place, and where it lies. -/
theorem backFrom_of_lastOf (last : lastOf read = some p) (after : List Leaf) :
    ∃ init, upToLast read = init ++ [p] ∧
      backFrom (leavesBefore read) after = some ⟨leavesBefore init,
        ⟨p.kind, p.text, Text.size (join init)⟩,
        leavesFrom (Text.size (join (upToLast read))) (triviaBehind read) ++ after⟩ := by
  obtain ⟨init, eq⟩ := List.getLast?_eq_some_iff.1 last
  refine ⟨init, eq, ?_⟩
  have significant : ¬ (Token.mk p.kind p.text (Text.size (join init))).isTrivia = true := by
    simpa [Token.isTrivia, Lexeme.isTrivia] using significant_of_lastOf last
  have first : leavesBefore (upToLast read) =
      .token ⟨p.kind, p.text, Text.size (join init)⟩ :: leavesBefore init := by
    rw [eq, ← leavesBefore_append]
    rfl
  rw [leavesBefore_eq, backFrom_trivia (isTrivia_between _ _), first, backFrom, if_neg significant,
    List.reverse_reverse]
  rfl

theorem backFrom_of_none (none : lastOf read = none) (after : List Leaf) :
    backFrom (leavesBefore read) after = Option.none := by
  have nothing : upToLast read = [] := List.getLast?_eq_none_iff.1 none
  rw [leavesBefore_eq, backFrom_trivia (isTrivia_between _ _), nothing]
  rfl

theorem triviaRun_of_significant {ts : List Token} (trivia : ∀ t ∈ ts, t.isTrivia = true)
    {leaves : List Leaf} (ends : leaves.head?.all fun l => ! l.isTrivia) :
    triviaRun (ts.map .token ++ leaves) = ts := by
  induction ts with
  | nil =>
    cases leaves with
    | nil => rfl
    | cons l leaves =>
      have plain : l.isTrivia = false := by simpa using ends
      simp [triviaRun, plain]
  | cons t ts ih =>
    have first : (Leaf.token t).isTrivia = true := trivia t List.mem_cons_self
    have rest := ih fun t mem => trivia t (List.mem_cons_of_mem _ mem)
    simp only [triviaRun] at rest ⊢
    rw [List.map_cons, List.cons_append, List.takeWhile_cons_of_pos first, List.filterMap_cons, rest]
    rfl

/-- The trivia before a place are those that the lexemes before it end with. -/
theorem triviaRun_before (read : List Lexeme) : triviaRun (leavesBefore read) =
    (tokensFrom (Text.size (join (upToLast read))) (triviaBehind read)).reverse := by
  rw [leavesBefore_eq]
  refine triviaRun_of_significant (isTrivia_between _ _) ?_
  cases last : lastOf read with
  | none =>
    have nothing : upToLast read = [] := List.getLast?_eq_none_iff.1 last
    rw [nothing]
    rfl
  | some p =>
    obtain ⟨init, eq⟩ := List.getLast?_eq_some_iff.1 last
    have significant := significant_of_lastOf last
    rw [eq, ← leavesBefore_append]
    simpa [leavesFrom, tokensFrom, Leaf.isTrivia, Leaf.token?, Token.isTrivia, Lexeme.isTrivia]
      using significant

end Place

end ScriptLint
