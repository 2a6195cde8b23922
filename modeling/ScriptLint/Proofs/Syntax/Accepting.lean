import ScriptLint.Proofs.Syntax.Breaks

/-!
# Reading known tokens

A parser accepts tokens if, wherever these stand ahead and whatever trivia stands between them, it
meets no error, hands out trees that are known up to trivia, and stops in front of known tokens
(`Parser.Accepts`). Each way to combine parsers has its counterpart, so what a parser accepts is
told like a derivation, without cursors.
-/

namespace ScriptLint

open Lexeme (significant)
open ScriptLint.Tree (bareOf)

namespace Lexeme

/-- The kind of the first one of some tokens. -/
def ahead (ls : List Lexeme) : SyntaxKind := (ls.head?.map (·.kind)).getD .endOfInput

@[simp] theorem ahead_cons (l : Lexeme) (ls : List Lexeme) : ahead (l :: ls) = l.kind := rfl

end Lexeme

namespace Cursor

variable {c : Cursor} {l : Lexeme} {ls : List Lexeme}

theorem rest_of_significant (ahead : significant c.rest = l :: ls) :
    ∃ rest, c.pastTrivia.rest = l :: rest ∧ significant rest = ls := by
  rw [← significant_pastTrivia] at ahead
  cases eq : c.pastTrivia.rest with
  | nil =>
    rw [eq] at ahead
    cases ahead
  | cons first rest =>
    rw [eq, significant, List.filter_cons_of_pos (by simp [isTrivia_of_rest eq])] at ahead
    obtain ⟨rfl, behind⟩ := List.cons.inj ahead
    exact ⟨rest, rfl, behind⟩

/-- What is next is the first one of the tokens ahead. -/
theorem current_of_significant (ahead : significant c.rest = ls) : c.current = Lexeme.ahead ls := by
  cases ls with
  | nil =>
    have none : c.pastTrivia.rest = [] := by
      by_contra some
      obtain ⟨l, rest, eq⟩ := List.exists_cons_of_ne_nil some
      rw [← significant_pastTrivia, eq, significant,
        List.filter_cons_of_pos (by simp [isTrivia_of_rest eq])] at ahead
      cases ahead
    simp [current, significant?, none, Lexeme.ahead]
  | cons l ls =>
    obtain ⟨rest, eq, -⟩ := rest_of_significant ahead
    rw [current_of_rest eq, Lexeme.ahead_cons]

end Cursor

/-- What reading gives: no error, trees up to trivia, and the tokens behind them. -/
structure Parsed.Gives {n : Nat} (r : Parsed n) (ts : List Tree) (rest : List Lexeme) : Prop where
  errors : r.errors = []
  out : bareOf id r.out = ts
  next : significant r.next.rest = rest

namespace Parser

variable {n : Nat} {p q : Parser n} {use : List Tree → Parser n} {kind : SyntaxKind} {l : Lexeme}
  {held ts us : List Tree} {ls mid rest : List Lexeme}

/-- Whether a parser, in front of some tokens, reads them as trees and stops in front of the rest. -/
def Accepts (p : Parser n) (ls : List Lexeme) (ts : List Tree) (rest : List Lexeme) : Prop :=
  ∀ c h, significant c.rest = ls → (p c h).Gives ts rest

theorem accepts_emit (same : bareOf id held = ts) : Accepts (emit held : Parser n) ls ts ls :=
  fun _ _ ahead => ⟨rfl, same, ahead⟩

theorem accepts_skip : Accepts (skip : Parser n) ls [] ls := accepts_emit rfl

theorem accepts_look {choose : Cursor → Parser n}
    (chosen : ∀ c, significant c.rest = ls → c.current = Lexeme.ahead ls →
      Accepts (choose c) ls ts rest) : Accepts (look choose) ls ts rest :=
  fun c h ahead => chosen c ahead (Cursor.current_of_significant ahead) c h ahead

theorem accepts_andThen (first : Accepts p ls ts mid) (second : Accepts q mid us rest) :
    Accepts (andThen p q) ls (ts ++ us) rest := by
  intro c h ahead
  have one := first c h ahead
  have two := second (p c h).next (p c h).bound one.next
  refine ⟨List.append_eq_nil_iff.2 ⟨one.errors, two.errors⟩, ?_, two.next⟩
  rw [← one.out, ← two.out]
  exact Tree.bareOf_append _ _

theorem accepts_capture (first : Accepts p ls ts mid)
    (second : ∀ out, bareOf id out = ts → Accepts (use out) mid us rest) :
    Accepts (capture p use) ls us rest := by
  intro c h ahead
  have one := first c h ahead
  have two := second (p c h).out one.out (p c h).next (p c h).bound one.next
  exact ⟨List.append_eq_nil_iff.2 ⟨one.errors, two.errors⟩, two.out, two.next⟩

theorem accepts_trivia : Accepts (trivia : Parser n) ls [] ls :=
  fun c _ ahead => ⟨rfl, Tree.bareOf_trivia fun _ => Cursor.isTrivia_of_mem_trivia,
    c.significant_pastTrivia.trans ahead⟩

theorem accepts_marked (first : Accepts p ls ts mid)
    (second : ∀ out, bareOf id out = ts → Accepts (use out) mid us rest) :
    Accepts (marked p use) ls us rest :=
  accepts_andThen accepts_trivia (accepts_capture first second)

theorem accepts_node (inner : Accepts p ls ts rest) :
    Accepts (node kind p) ls [.node kind ts] rest :=
  accepts_marked inner fun out same => accepts_emit (by rw [Tree.bareOf_node, same])

theorem accepts_take {use : List Tree → Lexeme → Parser n}
    (second : ∀ gap, l.isTrivia = false → bareOf id gap = [] → Accepts (use gap l) ls ts rest) :
    Accepts (take use) (l :: ls) ts rest := by
  intro c h ahead
  obtain ⟨behind, eq, at_⟩ := Cursor.rest_of_significant ahead
  have hd : Cursor.length ⟨c.pastTrivia.offset + l.size, behind⟩ < n :=
    Nat.lt_of_lt_of_le (Cursor.length_behind eq _) (Nat.le_of_lt_succ h)
  have gap : bareOf id (c.trivia.map Tree.ofLexeme) = [] :=
    Tree.bareOf_trivia fun _ => Cursor.isTrivia_of_mem_trivia
  have gives := second _ (Cursor.isTrivia_of_rest eq) gap _ hd at_
  rw [take_of_cons eq hd]
  exact ⟨gives.errors, gives.out, gives.next⟩

theorem accepts_bumpThen (second : Accepts p ls ts rest) :
    Accepts (bumpThen p) (l :: ls) (.ofLexeme l :: ts) rest := by
  refine accepts_take fun gap significant none => ?_
  have token : bareOf id (gap ++ [.ofLexeme l]) = [.ofLexeme l] := by
    rw [Tree.bareOf_append, none]
    exact Tree.bareOf_ofLexeme significant
  exact accepts_andThen (accepts_emit token) second

theorem accepts_bump : Accepts (bump : Parser n) (l :: ls) [.ofLexeme l] ls := by
  intro c h ahead
  obtain ⟨behind, eq, at_⟩ := Cursor.rest_of_significant ahead
  have hd := Nat.lt_trans (Cursor.length_behind eq (c.pastTrivia.offset + l.size)) h
  have reads : (bump : Parser n) c h = _ := bumpAs_of_cons eq hd
  have gap : bareOf id (c.trivia.map Tree.ofLexeme) = [] :=
    Tree.bareOf_trivia fun _ => Cursor.isTrivia_of_mem_trivia
  rw [reads, Cursor.current_of_rest eq]
  refine ⟨rfl, ?_, at_⟩
  rw [Tree.bareOf_append, gap]
  exact Tree.bareOf_ofLexeme (Cursor.isTrivia_of_rest eq)

theorem accepts_expect (is : l.kind = kind) :
    Accepts (expect kind : Parser n) (l :: ls) [.ofLexeme l] ls := by
  apply accepts_look
  intro c _ current
  rw [if_pos (current.trans is)]
  exact accepts_bump

/-- A parser that reads faithfully has read something if other tokens are ahead behind it. -/
theorem accepts_progress {p stuck : Parser (n + 1)} (faithful : ∀ c h, (p c h).Faithful Lexeme.Anywhere [] c)
    (moves : mid ≠ ls) (first : Accepts p ls ts mid) (again : Accepts q mid us rest) :
    Accepts (progress p q stuck) ls (ts ++ us) rest := by
  intro c h ahead
  have one := first c h ahead
  have shorter : (p c h).next.length < c.length := by
    refine Nat.lt_of_le_of_ne (faithful c h).length_le fun same => moves ?_
    rw [← one.next, (faithful c h).next_eq same, ahead]
  have two := again (p c h).next (Nat.lt_of_lt_of_le shorter (Nat.le_of_lt_succ h)) one.next
  simp only [progress, dif_pos shorter]
  refine ⟨List.append_eq_nil_iff.2 ⟨one.errors, two.errors⟩, ?_, two.next⟩
  rw [← one.out, ← two.out]
  exact Tree.bareOf_append _ _

/-- What is read before it is known whether more belongs to it, in front of a token that does not. -/
theorem accepts_alone {more : Cursor → Prop} [DecidablePred more] {around : List Tree → Parser n}
    (first : Accepts p ls ts rest) (ends : ∀ c, significant c.rest = rest → ¬ more c) :
    Accepts (marked p fun out => look fun c => if more c then around out else emit out) ls ts rest :=
  accepts_marked first fun out same => accepts_look fun c ahead _ => by
    rw [if_neg (ends c ahead)]
    exact accepts_emit same

end Parser

end ScriptLint
