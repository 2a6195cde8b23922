import ScriptLint.Proofs.Syntax.Content
import ScriptLint.Proofs.Syntax.Neatness

/-!
# Derivations

A tree is derived if its tokens are of kinds that tokens have and the children of each of its nodes,
trivia apart, make up a word of the content of its kind; besides, no node ends with trivia
(`Tree.Derived`). Trees in a row derive a content if all of them are derived and their kinds are a
word of it (`Derives`), and a parser yields a content if what it hands out without errors derives it
(`Parsed.Yields`). Each way to combine parsers has its counterpart among contents.
-/

namespace ScriptLint

namespace SyntaxKind

/-- Whether tokens may be of this kind. -/
def isTerminal (k : SyntaxKind) : Bool := k.code < 200

/-- Whether nodes below the root may be of this kind. -/
def isInner (k : SyntaxKind) : Bool := 200 < k.code && k.code < 400

theorem isTrivia_of_isInner {k : SyntaxKind} (inner : k.isInner = true) : k.isTrivia = false := by
  cases k <;> first | rfl | cases inner

theorem isTerminal_of_isTrivia {k : SyntaxKind} (trivia : k.isTrivia = true) :
    k.isTerminal = true := by
  cases k <;> first | rfl | cases trivia

end SyntaxKind

open Content

namespace Tree

mutual
/-- The tree and all trees below it, each before those below it. -/
def parts : Tree → List Tree
  | .token kind text => [.token kind text]
  | .node kind children => .node kind children :: partsOf children

def partsOf : List Tree → List Tree
  | [] => []
  | t :: ts => parts t ++ partsOf ts
end

theorem mem_partsOf {t : Tree} {ts : List Tree} : t ∈ partsOf ts ↔ ∃ u ∈ ts, t ∈ u.parts := by
  induction ts with
  | nil => simp [partsOf]
  | cons u ts ih => rw [partsOf, List.mem_append, ih, List.exists_mem_cons_iff]

/-- The kinds of trees, trivia apart. -/
def heads (ts : List Tree) : List SyntaxKind :=
  (ts.filter fun t => ! t.kind.isTrivia).map kind

/-- Whether the last one of trees is not trivia. -/
def Closed (ts : List Tree) : Prop := ∀ t ∈ ts.getLast?, t.kind.isTrivia = false

/-- Whether a tree below the root is derived by the grammar. -/
inductive Derived : Tree → Prop where
  | token {kind : SyntaxKind} {text : Text} (terminal : kind.isTerminal = true) :
      Derived (.token kind text)
  | node {kind : SyntaxKind} {children : List Tree} (inner : kind.isInner = true)
      (content : heads children ∈ kind.content.matches') (closed : Closed children)
      (derived : ∀ t ∈ children, Derived t) : Derived (.node kind children)

theorem Derived.of_mem_parts {t u : Tree} (derived : t.Derived) (part : u ∈ t.parts) :
    u.Derived := by
  induction derived with
  | token terminal =>
    obtain rfl := List.mem_singleton.1 part
    exact .token terminal
  | node inner content closed derived ih =>
    rcases List.mem_cons.1 part with rfl | below
    · exact .node inner content closed derived
    · obtain ⟨t, child, part⟩ := mem_partsOf.1 below
      exact ih t child part

theorem Derived.ne_error {t : Tree} (derived : t.Derived) : t.kind ≠ .error := by
  intro error
  cases derived with
  | token terminal =>
    obtain rfl : _ = SyntaxKind.error := error
    cases terminal
  | node inner =>
    obtain rfl : _ = SyntaxKind.error := error
    cases inner

@[simp] theorem heads_append (s t : List Tree) : heads (s ++ t) = heads s ++ heads t := by
  simp [heads]

@[simp] theorem heads_map_ofLexeme {ls : List Lexeme} (trivia : ∀ l ∈ ls, l.isTrivia = true) :
    heads (ls.map ofLexeme) = [] := by
  rw [heads, List.map_eq_nil_iff, List.filter_eq_nil_iff]
  intro t mem
  obtain ⟨l, among, rfl⟩ := List.mem_map.1 mem
  have plain : l.kind.isTrivia = true := trivia l among
  simp [ofLexeme, kind, plain]

theorem heads_singleton {t : Tree} (significant : t.kind.isTrivia = false) :
    heads [t] = [t.kind] := by
  simp [heads, significant]

theorem closed_singleton {t : Tree} (significant : t.kind.isTrivia = false) : Closed [t] := by
  simp [Closed, significant]

theorem Closed.append {s t : List Tree} (first : Closed s) (second : Closed t) :
    Closed (s ++ t) := by
  intro u last
  rw [List.getLast?_append, Option.mem_def, Option.or_eq_some_iff] at last
  rcases last with here | ⟨-, before⟩
  · exact second u here
  · exact first u before

theorem Closed.behind {t : List Tree} (closed : Closed t) (some : t ≠ []) (s : List Tree) :
    Closed (s ++ t) := by
  intro u last
  rw [List.getLast?_append_of_ne_nil s some] at last
  exact closed u last

theorem derived_trivia {ls : List Lexeme} (trivia : ∀ l ∈ ls, l.isTrivia = true) :
    ∀ t ∈ ls.map ofLexeme, t.Derived := by
  intro t mem
  obtain ⟨l, among, rfl⟩ := List.mem_map.1 mem
  exact .token (SyntaxKind.isTerminal_of_isTrivia (trivia l among))

end Tree

open ScriptLint.Tree (heads Closed)

/-- Whether trees derive a content. -/
structure Derives (e : Content) (ts : List Tree) : Prop where
  derived : ∀ t ∈ ts, t.Derived
  heads : heads ts ∈ e.matches'
  closed : Closed ts

section
variable {e f : Content} {ts more : List Tree} {kind : SyntaxKind} {ks : List SyntaxKind}

theorem Derives.mono (derives : Derives e ts) (le : e.matches' ≤ f.matches') : Derives f ts :=
  ⟨derives.derived, le derives.heads, derives.closed⟩

theorem Derives.widen {wider : List SyntaxKind} (derives : Derives (oneOf ks) ts)
    (among : ks ⊆ wider) : Derives (oneOf wider) ts :=
  derives.mono (oneOf_le among)

theorem derives_nil (empty : [] ∈ e.matches') : Derives e [] :=
  ⟨by simp, empty, by simp [Closed]⟩

theorem Derives.append (first : Derives e ts) (second : Derives f more) :
    Derives (e * f) (ts ++ more) := by
  refine ⟨?_, ?_, first.closed.append second.closed⟩
  · intro t mem
    rcases List.mem_append.1 mem with left | right
    · exact first.derived t left
    · exact second.derived t right
  · rw [Tree.heads_append]
    exact Language.append_mem_mul first.heads second.heads

theorem Derives.ne_nil (derives : Derives e ts) (filled : [] ∉ e.matches') : ts ≠ [] := by
  rintro rfl
  exact filled derives.heads

/-- Trivia may come before trees, if there are any. -/
theorem Derives.behind (derives : Derives e ts) (filled : [] ∉ e.matches') {gap : List Lexeme}
    (trivia : ∀ l ∈ gap, l.isTrivia = true) : Derives e (gap.map Tree.ofLexeme ++ ts) := by
  refine ⟨?_, ?_, derives.closed.behind (derives.ne_nil filled) _⟩
  · intro t mem
    rcases List.mem_append.1 mem with before | here
    · exact Tree.derived_trivia trivia t before
    · exact derives.derived t here
  · rw [Tree.heads_append, Tree.heads_map_ofLexeme trivia]
    exact derives.heads

theorem derives_token {text : Text} (terminal : kind.isTerminal = true)
    (significant : kind.isTrivia = false) : Derives (only kind) [.token kind text] := by
  have plain : (Tree.token kind text).kind.isTrivia = false := significant
  refine ⟨?_, mem_only.2 (Tree.heads_singleton plain), Tree.closed_singleton plain⟩
  intro t mem
  obtain rfl := List.mem_singleton.1 mem
  exact .token terminal

theorem derives_ofLexeme {l : Lexeme} (is : kind = l.kind) (terminal : kind.isTerminal = true)
    (significant : l.isTrivia = false) : Derives (only kind) [.ofLexeme l] := by
  subst is
  exact derives_token terminal significant

theorem Derives.node (inner : kind.isInner = true) (derives : Derives kind.content ts) :
    Derives (only kind) [.node kind ts] := by
  have plain : (Tree.node kind ts).kind.isTrivia = false := SyntaxKind.isTrivia_of_isInner inner
  refine ⟨?_, mem_only.2 (Tree.heads_singleton plain), Tree.closed_singleton plain⟩
  intro t mem
  obtain rfl := List.mem_singleton.1 mem
  exact .node inner derives.heads derives.closed derives.derived

theorem Derives.among (derives : Derives (only kind) ts) (mem : kind ∈ ks) :
    Derives (oneOf ks) ts :=
  derives.widen (List.cons_subset.2 ⟨mem, List.nil_subset ks⟩)

end

/-- What a parser hands out without errors derives a content. -/
def Parsed.Yields {n : Nat} (r : Parsed n) (e : Content) : Prop := r.errors = [] → Derives e r.out

namespace Parsed.Yields

variable {n : Nat} {r : Parsed n} {e f : Content} {kind : SyntaxKind} {ks : List SyntaxKind}

theorem mono (yields : r.Yields e) (le : e.matches' ≤ f.matches') : r.Yields f :=
  fun errors => (yields errors).mono le

theorem maybe (yields : r.Yields e) : r.Yields (maybe e) := yields.mono le_maybe

theorem among (yields : r.Yields (only kind)) (mem : kind ∈ ks) : r.Yields (oneOf ks) :=
  fun errors => (yields errors).among mem

theorem widen {wider : List SyntaxKind} (yields : r.Yields (oneOf ks)) (among : ks ⊆ wider) :
    r.Yields (oneOf wider) :=
  yields.mono (oneOf_le among)

end Parsed.Yields

namespace Parser

variable {n : Nat} {p q : Parser n} {use : List Tree → Parser n} {c : Cursor} {h : c.length < n}
  {kind : SyntaxKind} {ks : List SyntaxKind} {held : List Tree} {e f : Content}

theorem yields_look {choose : Cursor → Parser n} (chosen : (choose c c h).Yields e) :
    (look choose c h).Yields e := chosen

theorem yields_emit (derives : Derives e held) : (emit held c h).Yields e := fun _ => derives

theorem yields_skip (empty : [] ∈ e.matches') : ((skip : Parser n) c h).Yields e :=
  yields_emit (derives_nil empty)

theorem yields_fail {problem : SyntaxKind → SyntaxProblem} :
    ((fail problem : Parser n) c h).Yields e := by
  intro errors
  cases errors

theorem yields_reject {problem : SyntaxKind → SyntaxProblem} :
    ((reject problem : Parser n) c h).Yields e :=
  fun errors => absurd errors errors_reject

theorem yields_rejectThen {problem : SyntaxKind → SyntaxProblem} {h : c.length < n + 1} :
    (rejectThen problem p c h).Yields e :=
  fun errors => absurd errors errors_rejectThen

theorem yields_andThen (first : (p c h).Yields e)
    (second : (q (p c h).next (p c h).bound).Yields f) : (andThen p q c h).Yields (e * f) := by
  intro errors
  obtain ⟨one, two⟩ := errors_andThen.1 errors
  exact (first one).append (second two)

theorem yields_capture (first : (p c h).Yields e)
    (second : Derives e (p c h).out →
      (use (p c h).out (p c h).next (p c h).bound).Yields f) : (capture p use c h).Yields f := by
  intro errors
  obtain ⟨one, two⟩ := List.append_eq_nil_iff.1 errors
  exact second (first one) two

theorem yields_triviaThen {gap : List Lexeme} (trivia : ∀ l ∈ gap, l.isTrivia = true)
    (filled : [] ∉ e.matches') (second : (p c h).Yields e) :
    (andThen (emit (gap.map Tree.ofLexeme)) p c h).Yields e :=
  fun errors => (second errors).behind filled trivia

theorem yields_marked (filled : [] ∉ f.matches') (first : ∀ h, (p c.pastTrivia h).Yields e)
    (second : ∀ ts d hd, Derives e ts → (use ts d hd).Yields f) : (marked p use c h).Yields f := by
  intro errors
  have inner : (capture p use c.pastTrivia (trivia c h).bound).Yields f :=
    yields_capture (first _) (second _ _ _)
  exact (inner errors).behind filled fun _ => Cursor.isTrivia_of_mem_trivia

theorem yields_node (inner : kind.isInner = true) (le : e.matches' ≤ kind.content.matches')
    (content : ∀ h, (p c.pastTrivia h).Yields e) : (node kind p c h).Yields (only kind) :=
  yields_marked nil_notMem_oneOf content fun _ _ _ derives =>
    yields_emit ((derives.mono le).node inner)

theorem yields_wrap (inner : kind.isInner = true) (le : (e * f).matches' ≤ kind.content.matches')
    (derives : Derives e held) (content : (p c h).Yields f) :
    (wrap kind held p c h).Yields (only kind) := by
  intro errors
  obtain ⟨one, -⟩ := List.append_eq_nil_iff.1 errors
  exact ((derives.append (content one)).mono le).node inner

theorem yields_take {use : List Tree → Lexeme → Parser n} {h : c.length < n + 1}
    (more : c.current ≠ .endOfInput)
    (second : ∀ l d hd, c.current = l.kind → l.isTrivia = false →
      (use (c.trivia.map Tree.ofLexeme) l d hd).Yields e) :
    (take use c h).Yields e := by
  obtain ⟨l, rest, eq, hd⟩ := Cursor.exists_token (Cursor.rest_ne_nil_of_current more) h
  rw [take_of_cons eq hd]
  exact second l _ hd (Cursor.current_of_rest eq) (Cursor.isTrivia_of_rest eq)

theorem ne_endOfInput_of_mem (at_ : c.current ∈ ks) (terminal : ks.all SyntaxKind.isTerminal) :
    c.current ≠ .endOfInput := by
  intro ended
  rw [ended] at at_
  cases List.all_eq_true.1 terminal _ at_

/-- A token with the trivia before it. -/
theorem derives_next {l : Lexeme} (mem : l.kind ∈ ks) (terminal : ks.all SyntaxKind.isTerminal)
    (plain : l.isTrivia = false) :
    Derives (oneOf ks) (c.trivia.map Tree.ofLexeme ++ [.ofLexeme l]) := by
  have token := derives_ofLexeme rfl (List.all_eq_true.1 terminal _ mem) plain
  exact (token.among mem).behind nil_notMem_oneOf fun _ => Cursor.isTrivia_of_mem_trivia

theorem yields_bumpThen {h : c.length < n + 1} (at_ : c.current ∈ ks)
    (terminal : ks.all SyntaxKind.isTerminal) (second : ∀ d hd, (p d hd).Yields e) :
    (bumpThen p c h).Yields (oneOf ks * e) := by
  refine yields_take (ne_endOfInput_of_mem at_ terminal) ?_
  intro l d hd kind plain errors
  exact (derives_next (kind ▸ at_) terminal plain).append (second d hd errors)

theorem yields_bumpAs (more : c.current ≠ .endOfInput) (terminal : kind.isTerminal = true)
    (significant : kind.isTrivia = false) :
    ((bumpAs kind : Parser n) c h).Yields (only kind) := by
  obtain ⟨l, rest, eq⟩ := List.exists_cons_of_ne_nil (Cursor.rest_ne_nil_of_current more)
  rw [bumpAs_of_cons eq (Nat.lt_trans (Cursor.length_behind eq _) h)]
  intro _
  exact (derives_token terminal significant).behind nil_notMem_oneOf
    fun _ => Cursor.isTrivia_of_mem_trivia

theorem yields_bump (at_ : c.current ∈ ks) (terminal : ks.all SyntaxKind.isTerminal) :
    ((bump : Parser n) c h).Yields (oneOf ks) := by
  have more := ne_endOfInput_of_mem at_ terminal
  have known := List.all_eq_true.1 terminal _ at_
  exact (yields_look (yields_bumpAs more known c.isTrivia_current)).among at_

theorem yields_expect (terminal : kind.isTerminal = true) :
    ((expect kind : Parser n) c h).Yields (only kind) := by
  refine yields_look ?_
  split
  · rename_i at_
    exact yields_bump (List.mem_singleton.2 at_) (by simp [terminal])
  · exact yields_fail

theorem yields_progress {p stuck : Parser (n + 1)} {q : Parser n} {h : c.length < n + 1}
    (first : (p c h).Yields e) (again : ∀ hd, (q (p c h).next hd).Yields f)
    (otherwise : (stuck (p c h).next (p c h).bound).Yields f) :
    (progress p q stuck c h).Yields (e * f) := by
  simp only [progress]
  split
  · intro errors
    obtain ⟨one, two⟩ := List.append_eq_nil_iff.1 errors
    exact (first one).append (again _ two)
  · intro errors
    obtain ⟨one, two⟩ := List.append_eq_nil_iff.1 errors
    exact (first one).append (otherwise two)

end Parser

end ScriptLint
