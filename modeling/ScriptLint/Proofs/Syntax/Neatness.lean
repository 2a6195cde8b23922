import ScriptLint.Proofs.Syntax.Reading

/-!
# Neat trees

The trees that parsers hand out without errors are neat:

* no node is empty, a number stands in a node of its own, and a tagged template is made of its tag,
  trivia and the template (`Tree.Formed`);
* neither a number nor a point has a number right behind it, and a number has no word there but `in`
  and `of` (`Lexeme.Seamed`): read again from their characters, the lexemes would keep apart;
* the last token is significant and no slash (`Lexeme.Ends`).

`Whole` puts these together for trees that come behind a lexeme of a given kind. It is kept by all
ways to combine parsers, as far as the text lets the next lexeme follow (`Cursor.Ready`).
-/

namespace ScriptLint

/-- Whether nodes of a kind may be made of any trees. -/
def SyntaxKind.IsPlain (kind : SyntaxKind) : Prop :=
  kind ≠ .literal ∧ kind ≠ .taggedTemplateExpression

instance (kind : SyntaxKind) : Decidable kind.IsPlain := inferInstanceAs (Decidable (_ ∧ _))

namespace Lexeme

/-- Whether a lexeme is neither a number nor a word. -/
def IsMark (l : Lexeme) : Prop := l.kind ≠ .number ∧ l.kind.namesProperty = false

/-- Whether a lexeme may come right behind one of the given kind. -/
def MayFollow (before : SyntaxKind) (l : Lexeme) : Prop :=
  (before = .number → l.kind ≠ .number ∧
    (l.kind.namesProperty = true → l.kind = .inKeyword ∨ l.text = ['o', 'f'])) ∧
  (before = .dot → l.kind ≠ .number)

/-- The kind of the last lexeme, or of the one before them if there is none. -/
def lastKind (before : SyntaxKind) (ls : List Lexeme) : SyntaxKind :=
  (ls.getLast?.map (·.kind)).getD before

/-- Whether each lexeme may come right behind the one before it, and the first one behind one of the
given kind. -/
def Seamed : SyntaxKind → List Lexeme → Prop
  | _, [] => True
  | before, l :: ls => l.MayFollow before ∧ Seamed l.kind ls

/-- Whether the last lexeme is one that an operand or a statement may end with. -/
def Ends (ls : List Lexeme) : Prop :=
  ∃ l, ls.getLast? = some l ∧ l.isTrivia = false ∧ l.kind ≠ .slash

variable {before : SyntaxKind} {l : Lexeme} {ls more : List Lexeme}

theorem IsMark.mayFollow (mark : l.IsMark) (before : SyntaxKind) : l.MayFollow before :=
  ⟨fun _ => ⟨mark.1, fun word => by rw [mark.2] at word; cases word⟩, fun _ => mark.1⟩

theorem isMark_of_trivia (trivia : l.isTrivia = true) : l.IsMark := by
  unfold isTrivia at trivia
  unfold IsMark
  cases kind : l.kind <;> simp_all [SyntaxKind.isTrivia] <;> decide

theorem mayFollow_of_ne (number : before ≠ .number) (dot : before ≠ .dot) (l : Lexeme) :
    l.MayFollow before :=
  ⟨fun eq => absurd eq number, fun eq => absurd eq dot⟩

@[simp] theorem lastKind_nil (before : SyntaxKind) : lastKind before [] = before := rfl

@[simp] theorem lastKind_concat (before : SyntaxKind) (ls : List Lexeme) (l : Lexeme) :
    lastKind before (ls ++ [l]) = l.kind := by
  simp [lastKind]

@[simp] theorem lastKind_cons (before : SyntaxKind) (l : Lexeme) (ls : List Lexeme) :
    lastKind before (l :: ls) = lastKind l.kind ls := by
  cases last : ls.getLast? <;> simp [lastKind, List.getLast?_cons, last]

@[simp] theorem lastKind_append (before : SyntaxKind) (ls more : List Lexeme) :
    lastKind before (ls ++ more) = lastKind (lastKind before ls) more := by
  induction ls generalizing before with
  | nil => rfl
  | cons l ls ih => rw [List.cons_append, lastKind_cons, lastKind_cons, ih]

theorem lastKind_of_trivia (trivia : ∀ l ∈ ls, l.isTrivia = true) (some : ls ≠ [])
    (before : SyntaxKind) : lastKind before ls ≠ .number ∧ lastKind before ls ≠ .dot := by
  have last : lastKind before ls = (ls.getLast some).kind := by
    simp [lastKind, List.getLast?_eq_some_getLast some]
  have kind : (ls.getLast some).kind.isTrivia = true := trivia _ (List.getLast_mem some)
  rw [last]
  constructor <;> intro eq <;> rw [eq] at kind <;> cases kind

theorem seamed_append :
    Seamed before (ls ++ more) ↔ Seamed before ls ∧ Seamed (lastKind before ls) more := by
  induction ls generalizing before with
  | nil => simp [Seamed]
  | cons l ls ih => simp [Seamed, ih, lastKind_cons, and_assoc]

theorem seamed_of_trivia (trivia : ∀ l ∈ ls, l.isTrivia = true) : Seamed before ls := by
  induction ls generalizing before with
  | nil => trivial
  | cons l ls ih =>
    exact ⟨(isMark_of_trivia (trivia l List.mem_cons_self)).mayFollow before,
      ih fun l mem => trivia l (List.mem_cons_of_mem _ mem)⟩

theorem Ends.append (ends : Ends more) (ls : List Lexeme) : Ends (ls ++ more) := by
  obtain ⟨l, last, facts⟩ := ends
  exact ⟨l, by simp [List.getLast?_append, last], facts⟩

end Lexeme

namespace Tree

@[simp] theorem lexemesOf_append (s t : List Tree) :
    lexemesOf (s ++ t) = lexemesOf s ++ lexemesOf t := by
  induction s with
  | nil => rfl
  | cons x xs ih => simp [lexemesOf, ih]

@[simp] theorem lexemesOf_map_ofLexeme (ls : List Lexeme) :
    lexemesOf (ls.map ofLexeme) = ls := by
  induction ls with
  | nil => rfl
  | cons l ls ih => simp [lexemesOf, lexemes, ofLexeme, ih]

@[simp] theorem lexemesOf_node (kind : SyntaxKind) (ts : List Tree) :
    lexemesOf [.node kind ts] = lexemesOf ts := by
  simp [lexemesOf, lexemes]

@[simp] theorem lexemesOf_cons_ofLexeme (l : Lexeme) (ts : List Tree) :
    lexemesOf (ofLexeme l :: ts) = l :: lexemesOf ts := rfl

@[simp] theorem lexemesOf_nil : lexemesOf [] = [] := rfl

@[simp] theorem lexemesOf_token (kind : SyntaxKind) (text : Text) :
    lexemesOf [.token kind text] = [⟨kind, text⟩] := rfl

/-- Whether a tree has no empty node, and its literals and tagged templates are made as they ought
to be. -/
inductive Formed : Tree → Prop where
  | token {kind : SyntaxKind} {text : Text} (other : kind ≠ .number) : Formed (.token kind text)
  | literal {l : Lexeme} (significant : l.isTrivia = false) : Formed (.node .literal [.ofLexeme l])
  | tagged {tag : List Tree} {gap : List Lexeme} {text : Text} (formed : ∀ t ∈ tag, Formed t)
      (ends : Lexeme.Ends (lexemesOf tag)) (trivia : ∀ l ∈ gap, l.isTrivia = true) :
      Formed (.node .taggedTemplateExpression
        (tag ++ gap.map ofLexeme ++ [.node .templateLiteral [.token .template text]]))
  | node {kind : SyntaxKind} {children : List Tree} (plain : kind.IsPlain)
      (some : children ≠ []) (formed : ∀ t ∈ children, Formed t) : Formed (.node kind children)

end Tree

open ScriptLint.Tree (lexemesOf)

/-- Whether trees are formed, and their lexemes keep apart behind one of the given kind. -/
structure Joined (before : SyntaxKind) (ts : List Tree) : Prop where
  formed : ∀ t ∈ ts, t.Formed
  seamed : Lexeme.Seamed before (lexemesOf ts)

/-- Whether trees are joined and end like an operand or a statement. -/
structure Whole (before : SyntaxKind) (ts : List Tree) : Prop extends Joined before ts where
  ends : Lexeme.Ends (lexemesOf ts)

/-- Whether there are no trees, or whole ones. -/
def Neat (before : SyntaxKind) (ts : List Tree) : Prop := ts = [] ∨ Whole before ts

section
variable {before : SyntaxKind} {ts more : List Tree} {ls : List Lexeme} {l : Lexeme}

theorem Joined.append (first : Joined before ts)
    (second : Joined (Lexeme.lastKind before (lexemesOf ts)) more) : Joined before (ts ++ more) := by
  refine ⟨fun t mem => ?_, ?_⟩
  · rcases List.mem_append.1 mem with left | right
    · exact first.formed t left
    · exact second.formed t right
  · rw [Tree.lexemesOf_append]
    exact Lexeme.seamed_append.2 ⟨first.seamed, second.seamed⟩

theorem joined_trivia (trivia : ∀ l ∈ ls, l.isTrivia = true) :
    Joined before (ls.map Tree.ofLexeme) := by
  refine ⟨fun t mem => ?_, by simpa using Lexeme.seamed_of_trivia trivia⟩
  obtain ⟨l, among, rfl⟩ := List.mem_map.1 mem
  exact .token (Lexeme.isMark_of_trivia (trivia l among)).1

theorem joined_token {kind : SyntaxKind} {text : Text} (other : kind ≠ .number)
    (follows : (Lexeme.mk kind text).MayFollow before) : Joined before [.token kind text] := by
  refine ⟨fun t mem => ?_, by simpa [Lexeme.Seamed] using follows⟩
  obtain rfl := List.mem_singleton.1 mem
  exact .token other

theorem Whole.behind (second : Whole (Lexeme.lastKind before (lexemesOf ts)) more)
    (first : Joined before ts) : Whole before (ts ++ more) :=
  ⟨first.append second.toJoined, by simpa using second.ends.append _⟩

theorem Whole.append (first : Whole before ts)
    (second : Neat (Lexeme.lastKind before (lexemesOf ts)) more) : Whole before (ts ++ more) := by
  rcases second with rfl | second
  · rwa [List.append_nil]
  · exact second.behind first.toJoined

theorem Neat.append (first : Neat before ts)
    (second : Neat (Lexeme.lastKind before (lexemesOf ts)) more) : Neat before (ts ++ more) := by
  rcases first with rfl | first
  · simpa [lexemesOf] using second
  · exact .inr (first.append second)

/-- A node around whole trees is whole. -/
theorem Whole.node {kind : SyntaxKind} (whole : Whole before ts) (plain : kind.IsPlain) :
    Whole before [.node kind ts] := by
  obtain ⟨⟨formed, seamed⟩, ends⟩ := whole
  have some : ts ≠ [] := by
    rintro rfl
    obtain ⟨l, last, -⟩ := ends
    simp [lexemesOf] at last
  refine ⟨⟨fun t mem => ?_, by simpa using seamed⟩, by simpa using ends⟩
  obtain rfl := List.mem_singleton.1 mem
  exact .node plain some formed

end

/-- Whether what is next may come right behind a lexeme of the given kind, whatever it is: then
nothing is in the way of reading an operand or a statement. -/
def Cursor.Ready (c : Cursor) (before : SyntaxKind) : Prop :=
  ∀ l, c.rest.head? = some l → l.IsMark ∨ (before ≠ .number ∧ before ≠ .dot)

namespace Cursor

variable {c : Cursor} {before : SyntaxKind}

theorem ready_of_ne (number : before ≠ .number) (dot : before ≠ .dot) (c : Cursor) :
    c.Ready before :=
  fun _ _ => .inr ⟨number, dot⟩

/-- At the start of a statement anything is ready. -/
theorem ready_semicolon (c : Cursor) : c.Ready .semicolon := ready_of_ne (by decide) (by decide) c

theorem head_of_trivia_nil (none : c.trivia = []) : c.pastTrivia.rest = c.rest := by
  have whole := c.reads_trivia.1
  rw [none] at whole
  exact whole.symm

/-- Trivia keeps anything apart. -/
theorem ready_of_trivia (some : c.trivia ≠ []) (before : SyntaxKind) : c.Ready before := by
  intro l head
  obtain ⟨t, ts, eq⟩ := List.exists_cons_of_ne_nil some
  have first : c.rest.head? = c.trivia.head? := by
    rw [c.reads_trivia.1, eq]
    rfl
  rw [first] at head
  exact .inl (Lexeme.isMark_of_trivia (isTrivia_of_mem_trivia (List.mem_of_head? head)))

theorem ready_of_current (number : c.current ≠ .number) (word : c.current.namesProperty = false)
    (before : SyntaxKind) : c.Ready before := by
  by_cases none : c.trivia = []
  · intro l head
    have next : c.significant? = some l := by
      rw [significant?, head_of_trivia_nil none, head]
    rw [current_of_significant? next] at number word
    exact .inl ⟨number, word⟩
  · exact ready_of_trivia none before

/-- Behind the trivia before it, what is next is as ready as before. -/
theorem Ready.pastTrivia (ready : c.Ready before) :
    c.pastTrivia.Ready (Lexeme.lastKind before c.trivia) := by
  by_cases none : c.trivia = []
  · rwa [none, Lexeme.lastKind_nil, Ready, head_of_trivia_nil none]
  · have kind := Lexeme.lastKind_of_trivia (fun _ => isTrivia_of_mem_trivia) none before
    exact ready_of_ne kind.1 kind.2 _

theorem Ready.mayFollow {l : Lexeme} {rest : List Lexeme} (ready : c.Ready before)
    (eq : c.pastTrivia.rest = l :: rest) : l.MayFollow (Lexeme.lastKind before c.trivia) := by
  rcases ready.pastTrivia l (by rw [eq]; rfl) with mark | ⟨number, dot⟩
  · exact mark.mayFollow _
  · exact Lexeme.mayFollow_of_ne number dot l

theorem isTrivia_of_rest {l : Lexeme} {rest : List Lexeme} (eq : c.pastTrivia.rest = l :: rest) :
    l.isTrivia = false := by
  have kept := rest_pastTrivia c
  rw [eq] at kept
  by_contra trivia
  rw [Bool.not_eq_false] at trivia
  rw [List.dropWhile_cons_of_pos trivia] at kept
  have shorter := (List.dropWhile_sublist (p := Lexeme.isTrivia) (l := rest)).length_le
  rw [kept, List.length_cons] at shorter
  omega

theorem isTrivia_current (c : Cursor) : c.current.isTrivia = false := by
  cases eq : c.pastTrivia.rest with
  | nil =>
    simp only [current, significant?, eq]
    rfl
  | cons l rest =>
    rw [current_of_rest eq]
    exact isTrivia_of_rest eq

end Cursor

/-- Kinds of tokens that may stand anywhere and end anything. -/
def SyntaxKind.IsOrdinary (k : SyntaxKind) : Prop := k ≠ .endOfInput ∧ k ≠ .number ∧ k ≠ .slash

instance (k : SyntaxKind) : Decidable k.IsOrdinary := inferInstanceAs (Decidable (_ ∧ _ ∧ _))

namespace Parsed

variable {n : Nat}

/-- What a parser hands out is whole, unless it meets an error. -/
def IsWhole (r : Parsed n) (before : SyntaxKind) : Prop := r.errors = [] → Whole before r.out

/-- What a parser hands out is neat, unless it meets an error. -/
def IsNeat (r : Parsed n) (before : SyntaxKind) : Prop := r.errors = [] → Neat before r.out

/-- Behind a parser anything may come, unless it meets an error. -/
def Settles (r : Parsed n) (before : SyntaxKind) : Prop :=
  r.errors = [] → r.next.Ready (Lexeme.lastKind before (lexemesOf r.out))

theorem IsWhole.isNeat {r : Parsed n} {before : SyntaxKind} (whole : r.IsWhole before) :
    r.IsNeat before := fun errors => .inr (whole errors)

end Parsed

namespace Parser

variable {n : Nat} {p q : Parser n} {use : List Tree → Parser n} {c : Cursor} {h : c.length < n}
  {kind before : SyntaxKind} {held : List Tree}

theorem isWhole_emit (whole : Whole before held) : (emit held c h).IsWhole before := fun _ => whole

theorem isWhole_look {choose : Cursor → Parser n} (chosen : (choose c c h).IsWhole before) :
    (look choose c h).IsWhole before := chosen

theorem isNeat_look {choose : Cursor → Parser n} (chosen : (choose c c h).IsNeat before) :
    (look choose c h).IsNeat before := chosen

theorem settles_look {choose : Cursor → Parser n} (chosen : (choose c c h).Settles before) :
    (look choose c h).Settles before := chosen

theorem isNeat_skip : ((skip : Parser n) c h).IsNeat before := fun _ => .inl rfl

theorem isWhole_fail {problem : SyntaxKind → SyntaxProblem} :
    ((fail problem : Parser n) c h).IsWhole before := by
  intro errors
  cases errors

theorem errors_reject {problem : SyntaxKind → SyntaxProblem} :
    ((reject problem : Parser n) c h).errors ≠ [] := by
  intro errors
  simp only [reject, look] at errors
  split at errors <;> cases errors

theorem isWhole_reject {problem : SyntaxKind → SyntaxProblem} :
    ((reject problem : Parser n) c h).IsWhole before :=
  fun errors => absurd errors errors_reject

theorem errors_rejectThen {problem : SyntaxKind → SyntaxProblem} {h : c.length < n + 1} :
    (rejectThen problem p c h).errors ≠ [] := by
  intro errors
  simp only [rejectThen, look] at errors
  split at errors <;> cases errors

theorem errors_andThen : (andThen p q c h).errors = [] ↔
    (p c h).errors = [] ∧ (q (p c h).next (p c h).bound).errors = [] :=
  List.append_eq_nil_iff

theorem errors_progress {p stuck : Parser (n + 1)} {h : c.length < n + 1}
    (errors : (progress p q stuck c h).errors = []) : (p c h).errors = [] := by
  simp only [progress] at errors
  split at errors <;> exact (List.append_eq_nil_iff.1 errors).1

theorem isNeat_andThen (first : (p c h).IsNeat before)
    (second : (p c h).errors = [] → (q (p c h).next (p c h).bound).IsNeat
      (Lexeme.lastKind before (lexemesOf (p c h).out))) :
    (andThen p q c h).IsNeat before := by
  intro errors
  obtain ⟨one, two⟩ := errors_andThen.1 errors
  exact (first one).append (second one two)

theorem isWhole_andThen (first : (p c h).IsWhole before)
    (second : (p c h).errors = [] → (q (p c h).next (p c h).bound).IsNeat
      (Lexeme.lastKind before (lexemesOf (p c h).out))) :
    (andThen p q c h).IsWhole before := by
  intro errors
  obtain ⟨one, two⟩ := errors_andThen.1 errors
  exact (first one).append (second one two)

/-- As `isWhole_andThen`, where the first parser may read nothing. -/
theorem isWhole_andThen_right (first : (p c h).IsNeat before)
    (second : (p c h).errors = [] → (q (p c h).next (p c h).bound).IsWhole
      (Lexeme.lastKind before (lexemesOf (p c h).out))) :
    (andThen p q c h).IsWhole before := by
  intro errors
  obtain ⟨one, two⟩ := errors_andThen.1 errors
  have behind := second one two
  show Whole before ((p c h).out ++ _)
  rcases first one with none | whole
  · rw [none] at behind ⊢
    exact behind
  · exact behind.behind whole.toJoined

theorem isWhole_emitThen (first : Joined before held)
    (second : (p c h).IsWhole (Lexeme.lastKind before (lexemesOf held))) :
    (andThen (emit held) p c h).IsWhole before := by
  intro errors
  exact (second errors).behind first

theorem settles_andThen
    (second : (p c h).errors = [] → (q (p c h).next (p c h).bound).Settles
      (Lexeme.lastKind before (lexemesOf (p c h).out))) :
    (andThen p q c h).Settles before := by
  intro errors
  obtain ⟨one, two⟩ := errors_andThen.1 errors
  have ready := second one two
  rwa [← Lexeme.lastKind_append, ← Tree.lexemesOf_append] at ready

theorem isNeat_progress {p stuck : Parser (n + 1)} {q : Parser n} {h : c.length < n + 1}
    (first : (p c h).IsNeat before)
    (again : (p c h).errors = [] → ∀ hd, (q (p c h).next hd).IsNeat
      (Lexeme.lastKind before (lexemesOf (p c h).out)))
    (otherwise : (stuck (p c h).next (p c h).bound).IsNeat
      (Lexeme.lastKind before (lexemesOf (p c h).out))) :
    (progress p q stuck c h).IsNeat before := by
  simp only [progress]
  split
  · intro errors
    obtain ⟨one, two⟩ := List.append_eq_nil_iff.1 errors
    exact (first one).append (again one _ two)
  · intro errors
    obtain ⟨one, two⟩ := List.append_eq_nil_iff.1 errors
    exact (first one).append (otherwise two)

theorem isWhole_capture {inner : SyntaxKind} (first : (p c h).IsWhole inner)
    (second : ∀ ts d hd, Whole inner ts → (use ts d hd).IsWhole before) :
    (capture p use c h).IsWhole before := by
  intro errors
  obtain ⟨one, two⟩ := List.append_eq_nil_iff.1 errors
  exact second _ _ _ (first one) two

theorem joined_pastTrivia : Joined before (c.trivia.map Tree.ofLexeme) :=
  joined_trivia fun _ => Cursor.isTrivia_of_mem_trivia

theorem isWhole_markedAt
    (first : ∀ h, (p c.pastTrivia h).IsWhole (Lexeme.lastKind before c.trivia))
    (second : ∀ k ts d hd, Whole k ts → (use ts d hd).IsWhole k) :
    (marked p use c h).IsWhole before := by
  intro errors
  have inner : (capture p use c.pastTrivia (trivia c h).bound).IsWhole
      (Lexeme.lastKind before c.trivia) :=
    isWhole_capture (first _) (second _)
  refine Whole.behind ?_ joined_pastTrivia
  show Whole (Lexeme.lastKind before (lexemesOf (c.trivia.map Tree.ofLexeme))) _
  rw [Tree.lexemesOf_map_ofLexeme]
  exact inner errors

theorem isWhole_marked (ready : c.Ready before)
    (first : ∀ k h, c.pastTrivia.Ready k → (p c.pastTrivia h).IsWhole k)
    (second : ∀ k ts d hd, Whole k ts → (use ts d hd).IsWhole k) :
    (marked p use c h).IsWhole before :=
  isWhole_markedAt (fun h => first _ h ready.pastTrivia) second

theorem isWhole_node (plain : kind.IsPlain) (ready : c.Ready before)
    (inner : ∀ k h, c.pastTrivia.Ready k → (p c.pastTrivia h).IsWhole k) :
    (node kind p c h).IsWhole before :=
  isWhole_marked ready inner fun _ _ _ _ whole => isWhole_emit (whole.node plain)

theorem isWhole_wrap (plain : kind.IsPlain) (whole : Whole before held)
    (inner : (p c h).IsNeat (Lexeme.lastKind before (lexemesOf held))) :
    (wrap kind held p c h).IsWhole before := by
  intro errors
  obtain ⟨one, -⟩ := List.append_eq_nil_iff.1 errors
  exact (whole.append (inner one)).node plain

theorem isWhole_take {use : List Tree → Lexeme → Parser n} {h : c.length < n + 1}
    (more : c.current ≠ .endOfInput)
    (second : ∀ l rest d hd, c.pastTrivia.rest = l :: rest →
      (use (c.trivia.map Tree.ofLexeme) l d hd).IsWhole before) :
    (take use c h).IsWhole before := by
  obtain ⟨l, rest, eq, hd⟩ := Cursor.exists_token (Cursor.rest_ne_nil_of_current more) h
  rw [take_of_cons eq hd]
  exact second l rest _ hd eq

/-- A token with the trivia before it. -/
theorem whole_token {l : Lexeme} {rest : List Lexeme} (eq : c.pastTrivia.rest = l :: rest)
    (ready : c.Ready before) (number : l.kind ≠ .number) (slash : l.kind ≠ .slash) :
    Whole before (c.trivia.map Tree.ofLexeme ++ [.ofLexeme l]) := by
  have token : Joined (Lexeme.lastKind before c.trivia) [.ofLexeme l] :=
    joined_token number (ready.mayFollow eq)
  have significant := Cursor.isTrivia_of_rest eq
  refine Whole.behind ?_ joined_pastTrivia
  rw [Tree.lexemesOf_map_ofLexeme]
  exact ⟨token, l, rfl, significant, slash⟩

theorem isWhole_bumpThen {h : c.length < n + 1} (ready : c.Ready before)
    (ordinary : c.current.IsOrdinary) (second : ∀ d hd, (p d hd).IsNeat c.current) :
    (bumpThen p c h).IsWhole before := by
  obtain ⟨more, number, slash⟩ := ordinary
  obtain ⟨l, rest, eq, hd⟩ := Cursor.exists_token (Cursor.rest_ne_nil_of_current more) h
  have kind : c.current = l.kind := Cursor.current_of_rest eq
  rw [bumpThen, take_of_cons eq hd]
  intro errors
  have whole := whole_token eq ready (kind ▸ number) (kind ▸ slash)
  refine whole.append ?_
  have last : Lexeme.lastKind before (lexemesOf (c.trivia.map Tree.ofLexeme ++ [.ofLexeme l])) =
      c.current := by
    simp [Tree.ofLexeme, kind]
  rw [last]
  exact second _ hd errors

theorem isWhole_bumpAs (more : c.current ≠ .endOfInput) (number : kind ≠ .number)
    (slash : kind ≠ .slash) (significant : kind.isTrivia = false)
    (follows : ∀ l, c.significant? = some l →
      (Lexeme.mk kind l.text).MayFollow (Lexeme.lastKind before c.trivia)) :
    ((bumpAs kind : Parser n) c h).IsWhole before := by
  obtain ⟨l, rest, eq⟩ := List.exists_cons_of_ne_nil (Cursor.rest_ne_nil_of_current more)
  have token : Joined (Lexeme.lastKind before c.trivia) [.token kind l.text] :=
    joined_token number (follows l (Cursor.significant?_of_rest eq))
  rw [bumpAs_of_cons eq (Nat.lt_trans (Cursor.length_behind eq _) h)]
  intro _
  refine Whole.behind ?_ joined_pastTrivia
  rw [Tree.lexemesOf_map_ofLexeme]
  exact ⟨token, ⟨kind, l.text⟩, rfl, significant, slash⟩

theorem isWhole_bump (ready : c.Ready before) (ordinary : c.current.IsOrdinary) :
    ((bump : Parser n) c h).IsWhole before := by
  obtain ⟨more, number, slash⟩ := ordinary
  obtain ⟨l, rest, eq⟩ := List.exists_cons_of_ne_nil (Cursor.rest_ne_nil_of_current more)
  have kind : c.current = l.kind := Cursor.current_of_rest eq
  have significant : c.current.isTrivia = false := kind ▸ Cursor.isTrivia_of_rest eq
  refine isWhole_look (isWhole_bumpAs more number slash significant fun other next => ?_)
  obtain rfl : l = other := by simpa [Cursor.significant?, eq] using next
  rw [kind]
  exact ready.mayFollow eq

theorem isWhole_expect (ordinary : kind.IsOrdinary) (word : kind.namesProperty = false) :
    ((expect kind : Parser n) c h).IsWhole before := by
  refine isWhole_look ?_
  split
  · rename_i at_
    exact isWhole_bump (Cursor.ready_of_current (at_ ▸ ordinary.2.1) (at_ ▸ word) before)
      (at_ ▸ ordinary)
  · exact isWhole_fail

/-- Behind a token that is neither a number nor a point, anything may come. -/
theorem settles_bumpAs (more : c.current ≠ .endOfInput) (number : kind ≠ .number)
    (dot : kind ≠ .dot) : ((bumpAs kind : Parser n) c h).Settles before := by
  obtain ⟨l, rest, eq⟩ := List.exists_cons_of_ne_nil (Cursor.rest_ne_nil_of_current more)
  rw [bumpAs_of_cons eq (Nat.lt_trans (Cursor.length_behind eq _) h)]
  intro _
  simp only [Tree.lexemesOf_append, Tree.lexemesOf_token, Lexeme.lastKind_concat]
  exact Cursor.ready_of_ne number dot _

theorem settles_bump (ordinary : c.current.IsOrdinary) (dot : c.current ≠ .dot) :
    ((bump : Parser n) c h).Settles before :=
  settles_look (settles_bumpAs ordinary.1 ordinary.2.1 dot)

theorem settles_fail {problem : SyntaxKind → SyntaxProblem} :
    ((fail problem : Parser n) c h).Settles before := by
  intro errors
  cases errors

theorem settles_expect (ordinary : kind.IsOrdinary) (dot : kind ≠ .dot) :
    ((expect kind : Parser n) c h).Settles before := by
  refine settles_look ?_
  split
  · rename_i at_
    exact settles_bump (at_ ▸ ordinary) (at_ ▸ dot)
  · exact settles_fail

/-- A node settles if what is in it does. -/
theorem settles_node (inner : (p c.pastTrivia (trivia c h).bound).Settles
      (Lexeme.lastKind before c.trivia)) :
    (node kind p c h).Settles before := by
  intro errors
  obtain ⟨one, -⟩ := List.append_eq_nil_iff.1 (List.append_eq_nil_iff.1 errors).2
  have out : (node kind p c h).out = c.trivia.map Tree.ofLexeme ++
      [.node kind (p c.pastTrivia (trivia c h).bound).out] := rfl
  rw [out, Tree.lexemesOf_append, Tree.lexemesOf_map_ofLexeme, Tree.lexemesOf_node,
    Lexeme.lastKind_append]
  exact inner one

theorem settles_capture
    (second : ∀ ts d hd, (use ts d hd).Settles before) : (capture p use c h).Settles before := by
  intro errors
  exact second _ _ _ (List.append_eq_nil_iff.1 errors).2

/-- A node around trees held settles if what is read behind them does. -/
theorem settles_wrap (inner : (p c h).Settles (Lexeme.lastKind before (lexemesOf held))) :
    (wrap kind held p c h).Settles before := by
  intro errors
  have ready := inner (List.append_eq_nil_iff.1 errors).1
  have out : (wrap kind held p c h).out = [.node kind (held ++ (p c h).out)] := rfl
  rwa [out, Tree.lexemesOf_node, Tree.lexemesOf_append, Lexeme.lastKind_append]

theorem settles_take {use : List Tree → Lexeme → Parser n} {h : c.length < n + 1}
    (more : c.current ≠ .endOfInput)
    (second : ∀ l d hd, (use (c.trivia.map Tree.ofLexeme) l d hd).Settles before) :
    (take use c h).Settles before := by
  obtain ⟨l, rest, eq, hd⟩ := Cursor.exists_token (Cursor.rest_ne_nil_of_current more) h
  rw [take_of_cons eq hd]
  exact second l _ hd

theorem settles_bumpThen {h : c.length < n + 1} (more : c.current ≠ .endOfInput)
    (second : ∀ d hd, (p d hd).Settles c.current) : (bumpThen p c h).Settles before := by
  obtain ⟨l, rest, eq, hd⟩ := Cursor.exists_token (Cursor.rest_ne_nil_of_current more) h
  have kind : c.current = l.kind := Cursor.current_of_rest eq
  rw [bumpThen, take_of_cons eq hd]
  intro errors
  have ready := second _ hd errors
  rw [kind] at ready
  simpa [andThen, emit] using ready

end Parser

end ScriptLint
