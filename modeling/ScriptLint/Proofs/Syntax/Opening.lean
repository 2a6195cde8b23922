import ScriptLint.Proofs.Syntax.Neatness

/-!
# How nodes start

No node starts with trivia, errors or not (`Tree.Opened`). A node is opened behind the trivia before
it, or around trees that were read from there. What those start with is the next lexeme, unless they
hold no token yet: so the lexemes of the trees and what is left of the text are looked at together
(`Parsed.Opens`).
-/

namespace ScriptLint

namespace Lexeme

/-- Whether the first lexeme, if there is one, is significant. -/
def Fronted (ls : List Lexeme) : Prop := ∀ l ∈ ls.head?, l.isTrivia = false

variable {ls more rest : List Lexeme}

theorem Fronted.left (fronted : Fronted (ls ++ more)) : Fronted ls := by
  cases ls with
  | nil => simp [Fronted]
  | cons l ls => exact fronted

/-- What comes behind lexemes matters only if there are none. -/
theorem Fronted.replace (fronted : Fronted (ls ++ rest)) (step : Fronted rest → Fronted more) :
    Fronted (ls ++ more) := by
  cases ls with
  | nil => exact step fronted
  | cons l ls => exact fronted

end Lexeme

open Lexeme (Fronted)
open ScriptLint.Tree (lexemesOf)

namespace Tree

/-- Whether no node of a tree starts with trivia. -/
inductive Opened : Tree → Prop where
  | token {kind : SyntaxKind} {text : Text} : Opened (.token kind text)
  | node {kind : SyntaxKind} {children : List Tree} (fronted : Fronted (lexemesOf children))
      (opened : ∀ t ∈ children, Opened t) : Opened (.node kind children)

theorem opened_append {s t : List Tree} (first : ∀ u ∈ s, Opened u) (second : ∀ u ∈ t, Opened u) :
    ∀ u ∈ s ++ t, Opened u := by
  intro u mem
  rcases List.mem_append.1 mem with left | right
  · exact first u left
  · exact second u right

theorem opened_ofLexemes (ls : List Lexeme) : ∀ t ∈ ls.map ofLexeme, Opened t := by
  intro t mem
  obtain ⟨l, -, rfl⟩ := List.mem_map.1 mem
  exact .token

theorem opened_node (kind : SyntaxKind) {children : List Tree} (fronted : Fronted (lexemesOf children))
    (opened : ∀ t ∈ children, Opened t) : ∀ t ∈ [Tree.node kind children], Opened t := by
  intro t mem
  obtain rfl := List.mem_singleton.1 mem
  exact .node fronted opened

end Tree

open ScriptLint.Tree (opened_append opened_ofLexemes opened_node)

namespace Cursor

variable {c : Cursor} {held : List Tree}

theorem fronted_pastTrivia (c : Cursor) : Fronted c.pastTrivia.rest := by
  cases eq : c.pastTrivia.rest with
  | nil => simp [Fronted]
  | cons l rest =>
    intro first head
    obtain rfl : l = first := by simpa using head
    exact isTrivia_of_rest eq

end Cursor

/-- What a parser does at a cursor that was handed trees: it makes no node that starts with trivia,
and what it hands out starts with a significant lexeme, or else what it leaves, if the trees and what
is ahead of it do. -/
structure Parsed.Opens {n : Nat} (r : Parsed n) (held : List Tree) (c : Cursor) : Prop where
  opened : ∀ t ∈ r.out, t.Opened
  fronted : Fronted (lexemesOf held ++ c.rest) → Fronted (lexemesOf r.out ++ r.next.rest)

namespace Parsed.Opens

variable {n m k : Nat} {r : Parsed n} {s : Parsed m} {held held' : List Tree} {c : Cursor}

theorem congr (opens : r.Opens held' c) (same : lexemesOf held' = lexemesOf held) :
    r.Opens held c :=
  ⟨opens.opened, same ▸ opens.fronted⟩

/-- Trees that start with a significant lexeme still do so with what is read behind them. -/
theorem behind (opens : r.Opens [] c) (fronted : Fronted (lexemesOf held ++ c.rest)) :
    Fronted (lexemesOf (held ++ r.out) ++ r.next.rest) := by
  rw [Tree.lexemesOf_append, List.append_assoc]
  exact fronted.replace opens.fronted

theorem append (first : r.Opens held c) (second : s.Opens [] r.next) (bound : s.next.length < k) :
    (Parsed.mk (r.out ++ s.out) (r.errors ++ s.errors) s.next bound).Opens held c :=
  ⟨opened_append first.opened second.opened, fun fronted => second.behind (first.fronted fronted)⟩

end Parsed.Opens

namespace Parser

variable {n : Nat} {held : List Tree} {p q : Parser n} {use : List Tree → Parser n} {c : Cursor}
  {h : c.length < n} {kind : SyntaxKind}

theorem opens_look {choose : Cursor → Parser n} (chosen : (choose c c h).Opens held c) :
    (look choose c h).Opens held c := chosen

theorem opens_emit (opened : ∀ t ∈ held, t.Opened) : (emit held c h).Opens held c :=
  ⟨opened, id⟩

theorem opens_skip : ((skip : Parser n) c h).Opens [] c := opens_emit (by simp)

theorem opens_fail {problem : SyntaxKind → SyntaxProblem} :
    ((fail problem : Parser n) c h).Opens [] c :=
  ⟨by simp [fail], id⟩

theorem opens_andThen (first : (p c h).Opens held c)
    (second : (q (p c h).next (p c h).bound).Opens [] (p c h).next) :
    (andThen p q c h).Opens held c :=
  first.append second _

/-- Trees that are handed out at once go before those that are still held. -/
theorem opens_emitThen {front : List Tree} (opened : ∀ t ∈ front, t.Opened)
    (second : (p c h).Opens held c) : (andThen (emit front) p c h).Opens (front ++ held) c := by
  refine ⟨opened_append opened second.opened, fun fronted => ?_⟩
  rw [Tree.lexemesOf_append, List.append_assoc] at fronted
  have ahead := fronted.replace second.fronted
  rwa [← List.append_assoc, ← Tree.lexemesOf_append] at ahead

theorem opens_capture (first : (p c h).Opens [] c)
    (second : (use (p c h).out (p c h).next (p c h).bound).Opens (held ++ (p c h).out)
      (p c h).next) :
    (capture p use c h).Opens held c :=
  ⟨second.opened, fun fronted => second.fronted (first.behind fronted)⟩

theorem opens_trivia : ((trivia : Parser n) c h).Opens [] c := by
  refine ⟨opened_ofLexemes _, fun fronted => ?_⟩
  have whole : c.rest = c.trivia ++ c.pastTrivia.rest := c.reads_trivia.1
  rw [whole] at fronted
  simpa [trivia] using fronted

/-- From the next significant lexeme on, all is fronted. -/
theorem opens_marked (first : ∀ h, (p c.pastTrivia h).Opens [] c.pastTrivia)
    (second : ∀ out d h, (∀ t ∈ out, t.Opened) → Fronted (lexemesOf out ++ d.rest) →
      (use out d h).Opens out d) :
    (marked p use c h).Opens [] c := by
  refine opens_andThen opens_trivia (opens_capture (first _) ?_)
  exact second _ _ _ (first _).opened ((first _).fronted c.fronted_pastTrivia)

theorem opens_around (opened : ∀ t ∈ held, t.Opened) (fronted : Fronted (lexemesOf held)) :
    (emit [.node kind held] c h).Opens held c :=
  (opens_emit (opened_node kind fronted opened)).congr (Tree.lexemesOf_node kind held)

theorem opens_node (inner : ∀ h, (p c.pastTrivia h).Opens [] c.pastTrivia) :
    (node kind p c h).Opens [] c :=
  opens_marked inner fun _ _ _ opened fronted => opens_around opened fronted.left

theorem opens_wrap (opened : ∀ t ∈ held, t.Opened) (fronted : Fronted (lexemesOf held ++ c.rest))
    (inner : (p c h).Opens [] c) : (wrap kind held p c h).Opens held c :=
  opens_capture inner
    (opens_around (opened_append opened inner.opened) (inner.behind fronted).left)

/-- Reading a token, when the text is not over. -/
theorem opens_take {use : List Tree → Lexeme → Parser n} {h : c.length < n + 1}
    (more : c.pastTrivia.rest ≠ [])
    (second : ∀ l d hd, l.isTrivia = false →
      (Fronted (lexemesOf held ++ c.rest) →
        Fronted (lexemesOf (held ++ c.trivia.map Tree.ofLexeme ++ [.ofLexeme l]) ++ d.rest)) →
      (use (c.trivia.map Tree.ofLexeme) l d hd).Opens
        (held ++ c.trivia.map Tree.ofLexeme ++ [.ofLexeme l]) d) :
    (take use c h).Opens held c := by
  obtain ⟨l, rest, eq, hd⟩ := Cursor.exists_token more h
  have whole : c.rest = c.trivia ++ l :: rest := eq ▸ c.reads_trivia.1
  have step (fronted : Fronted (lexemesOf held ++ c.rest)) :
      Fronted (lexemesOf (held ++ c.trivia.map Tree.ofLexeme ++ [.ofLexeme l]) ++ rest) := by
    rw [whole] at fronted
    simpa using fronted
  rw [take_of_cons eq hd]
  have used := second l _ hd (Cursor.isTrivia_of_rest eq) step
  exact ⟨used.opened, fun fronted => used.fronted (step fronted)⟩

theorem opens_bumpThen {h : c.length < n + 1} (second : ∀ d h, (p d h).Opens [] d) :
    (bumpThen p c h).Opens [] c := by
  by_cases eq : c.pastTrivia.rest = []
  · rw [bumpThen, take_of_nil eq]
    exact opens_trivia
  · refine opens_take eq fun l d hd _ _ => opens_andThen (opens_emit ?_) (second _ _)
    exact opened_append (opened_ofLexemes _) (opened_ofLexemes [l])

theorem opens_bumpAs (significant : kind.isTrivia = false) :
    ((bumpAs kind : Parser n) c h).Opens [] c := by
  cases eq : c.pastTrivia.rest with
  | nil =>
    rw [bumpAs_of_nil eq]
    exact opens_trivia
  | cons l rest =>
    have whole : c.rest = c.trivia ++ l :: rest := eq ▸ c.reads_trivia.1
    rw [bumpAs_of_cons eq (Nat.lt_trans (Cursor.length_behind eq _) h)]
    refine ⟨opened_append (opened_ofLexemes _) (opened_ofLexemes [⟨kind, l.text⟩]), ?_⟩
    intro fronted
    rw [whole, Tree.lexemesOf_nil, List.nil_append] at fronted
    rw [Tree.lexemesOf_append, Tree.lexemesOf_map_ofLexeme, List.append_assoc]
    refine fronted.replace fun _ => ?_
    simpa [Fronted, Lexeme.isTrivia] using significant

theorem opens_bump : ((bump : Parser n) c h).Opens [] c :=
  opens_look (opens_bumpAs c.isTrivia_current)

theorem opens_expect : ((expect kind : Parser n) c h).Opens [] c := by
  refine opens_look ?_
  split
  · exact opens_bump
  · exact opens_fail

theorem opens_reject {problem : SyntaxKind → SyntaxProblem} :
    ((reject problem : Parser n) c h).Opens [] c := by
  refine opens_look ?_
  split
  · exact opens_fail
  · exact opens_andThen opens_fail (opens_node fun _ => opens_bump)

theorem opens_rejectThen {problem : SyntaxKind → SyntaxProblem} {h : c.length < n + 1}
    (second : ∀ d h, (p d h).Opens [] d) : (rejectThen problem p c h).Opens [] c := by
  refine opens_look ?_
  split
  · exact opens_fail
  · rename_i more
    refine opens_andThen opens_fail (opens_take (Cursor.rest_ne_nil_of_current more) ?_)
    intro l d hd significant _
    refine opens_andThen ?_ (second _ _)
    have fronted : Fronted (lexemesOf [.ofLexeme l]) := by
      simpa [Fronted, Tree.lexemesOf_cons_ofLexeme] using significant
    have opened := opened_append (opened_ofLexemes c.trivia)
      (opened_node .error fronted (opened_ofLexemes [l]))
    exact (opens_emit opened).congr (by simp [fail])

theorem opens_progress {p stuck : Parser (n + 1)} {h : c.length < n + 1}
    (first : (p c h).Opens [] c) (again : ∀ d h, (q d h).Opens [] d)
    (otherwise : ∀ d h, (stuck d h).Opens [] d) : (progress p q stuck c h).Opens [] c := by
  simp only [progress]
  split
  · exact first.append (again _ _) _
  · exact first.append (otherwise _ _) _

end Parser

end ScriptLint
