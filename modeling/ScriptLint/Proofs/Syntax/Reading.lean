import Mathlib.Data.List.DropRight
import ScriptLint.Syntax.Cursor
import ScriptLint.Proofs.Syntax.Leaves
import ScriptLint.Proofs.Syntax.Lexing

/-!
# Faithful reading

A parser reads faithfully if the leaves of what it hands out are the lexemes that it read, each
stored as its place demands, and if every error that it notes cuts a stretch out of what was left of
the text. Each way to combine parsers keeps this, so a production has it if the parsers have it that
it calls.

A parser may be handed trees that were read before it starts; it hands them out with its own.
`Faithful` takes the lexemes of these trees.
-/

namespace ScriptLint

namespace Cursor

/-- Whether reading lexemes leads from one cursor to another. -/
def Reads (c : Cursor) (ls : List Lexeme) (next : Cursor) : Prop :=
  c.rest = ls ++ next.rest ∧ next.offset = c.offset + Text.size (Lexeme.join ls)

variable {c d e : Cursor} {ls more : List Lexeme}

theorem reads_nil (c : Cursor) : c.Reads [] c := ⟨rfl, rfl⟩

theorem Reads.trans (h : c.Reads ls d) (h' : d.Reads more e) : c.Reads (ls ++ more) e := by
  refine ⟨by rw [h.1, h'.1, List.append_assoc], ?_⟩
  rw [h'.2, h.2, Lexeme.size_join_append, Nat.add_assoc]

theorem Reads.length_le (h : c.Reads ls d) : d.length ≤ c.length := by
  simp only [length, h.1, List.length_append]
  omega

/-- Where no lexeme was read, the cursor has not moved. -/
theorem Reads.eq_of_length_eq (h : c.Reads ls d) (same : d.length = c.length) : d = c := by
  obtain ⟨rest, offset⟩ := h
  have none : ls = [] := by
    simp only [length, rest, List.length_append] at same
    exact List.length_eq_zero_iff.1 (by omega)
  subst none
  cases c
  cases d
  simp only [List.nil_append] at rest
  simp only [Cursor.mk.injEq]
  exact ⟨offset, rest.symm⟩

/-- A stretch of what is left of a text is one of what was left before. -/
theorem Reads.cuts {span : Span} (h : c.Reads ls d)
    (cuts : span.Cuts d.offset (Lexeme.join d.rest)) : span.Cuts c.offset (Lexeme.join c.rest) := by
  rw [h.2] at cuts
  rw [h.1, Lexeme.join_append]
  exact cuts.behind

theorem reads_trivia (c : Cursor) : c.Reads c.trivia c.pastTrivia :=
  ⟨List.takeWhile_append_dropWhile.symm, rfl⟩

theorem isTrivia_of_mem_trivia {l : Lexeme} (h : l ∈ c.trivia) : l.isTrivia = true :=
  List.all_eq_true.1 List.all_takeWhile l h

theorem reads_token {l : Lexeme} {rest : List Lexeme} (h : c.pastTrivia.rest = l :: rest) :
    c.Reads (c.trivia ++ [l]) ⟨c.pastTrivia.offset + l.size, rest⟩ :=
  c.reads_trivia.trans ⟨h, by simp [Lexeme.join, Lexeme.size]⟩

theorem significant?_of_rest {l : Lexeme} {rest : List Lexeme} (h : c.pastTrivia.rest = l :: rest) :
    c.significant? = some l := by
  simp [significant?, h]

theorem current_of_significant? {l : Lexeme} (h : c.significant? = some l) :
    c.current = l.kind := by
  simp [current, h]

theorem current_of_rest {l : Lexeme} {rest : List Lexeme} (h : c.pastTrivia.rest = l :: rest) :
    c.current = l.kind :=
  current_of_significant? (significant?_of_rest h)

theorem rest_ne_nil_of_current (h : c.current ≠ .endOfInput) : c.pastTrivia.rest ≠ [] :=
  fun eq => h (by simp [current, significant?, eq])

theorem length_behind {l : Lexeme} {rest : List Lexeme} (h : c.pastTrivia.rest = l :: rest)
    (offset : Nat) : Cursor.length ⟨offset, rest⟩ < c.length := by
  have := c.length_pastTrivia_le
  simp only [length, h, List.length_cons] at this ⊢
  omega

/-- In front of a token, what is behind the token is shorter. -/
theorem exists_token {n : Nat} (more : c.pastTrivia.rest ≠ []) (bound : c.length < n + 1) :
    ∃ l rest, c.pastTrivia.rest = l :: rest ∧
      Cursor.length ⟨c.pastTrivia.offset + l.size, rest⟩ < n := by
  obtain ⟨l, rest, eq⟩ := List.exists_cons_of_ne_nil more
  exact ⟨l, rest, eq, Nat.lt_of_lt_of_le (length_behind eq _) (Nat.le_of_lt_succ bound)⟩

@[simp] theorem rest_pastTrivia (c : Cursor) :
    c.pastTrivia.rest.dropWhile Lexeme.isTrivia = c.pastTrivia.rest := by
  simp [pastTrivia, List.dropWhile_idempotent]

@[simp] theorem trivia_pastTrivia (c : Cursor) : c.pastTrivia.trivia = [] := by
  have whole := c.pastTrivia.rest.takeWhile_append_dropWhile (p := Lexeme.isTrivia)
  rw [rest_pastTrivia] at whole
  exact List.append_left_eq_self.1 whole

@[simp] theorem pastTrivia_pastTrivia (c : Cursor) : c.pastTrivia.pastTrivia = c.pastTrivia := by
  rw [pastTrivia, trivia_pastTrivia, rest_pastTrivia]
  rfl

@[simp] theorem current_pastTrivia (c : Cursor) : c.pastTrivia.current = c.current := by
  simp only [current, significant?, pastTrivia_pastTrivia]

/-- The place at which errors are noted. -/
theorem currentSpan_cuts (c : Cursor) : c.currentSpan.Cuts c.offset (Lexeme.join c.rest) := by
  apply c.reads_trivia.cuts
  cases eq : c.pastTrivia.rest with
  | nil => exact ⟨[], [], [], rfl, rfl, by simp [currentSpan, significant?, eq]⟩
  | cons l rest =>
    exact ⟨[], l.text, Lexeme.join rest, rfl, rfl,
      by simp [currentSpan, significant?, eq, Lexeme.size]⟩

end Cursor

/-- What reading from a cursor gives, when the lexemes `before` were read and put into trees that
the parser was handed. -/
structure Parsed.Faithful {n : Nat} (r : Parsed n) (Place : List SyntaxKind → Prop)
    (before : List Lexeme) (c : Cursor) : Prop where
  reads : ∃ ls, c.Reads ls r.next ∧ Spells Place (before ++ ls) r.out
  errors : ∀ e ∈ r.errors, e.span.Cuts c.offset (Lexeme.join c.rest)

namespace Parsed.Faithful

open Lexeme (Anywhere)

variable {n : Nat} {r : Parsed n} {Place : List SyntaxKind → Prop} {before : List Lexeme}
  {c : Cursor}

theorem anywhere (h : r.Faithful Anywhere before c) : r.Faithful Place before c :=
  ⟨h.reads.imp fun _ reads => ⟨reads.1, reads.2.anywhere⟩, h.errors⟩

theorem length_le (h : r.Faithful Place before c) : r.next.length ≤ c.length := by
  obtain ⟨ls, reads, _⟩ := h.reads
  exact reads.length_le

theorem next_eq (h : r.Faithful Place before c) (same : r.next.length = c.length) : r.next = c := by
  obtain ⟨ls, reads, _⟩ := h.reads
  exact reads.eq_of_length_eq same

/-- What is read behind one another is read faithfully as a whole. -/
theorem append {m k : Nat} {s : Parsed m} (first : r.Faithful Place before c)
    (second : s.Faithful Place [] r.next) (bound : s.next.length < k) :
    (Parsed.mk (r.out ++ s.out) (r.errors ++ s.errors) s.next bound).Faithful Place before c := by
  obtain ⟨ls, reads, spells⟩ := first.reads
  obtain ⟨more, reads', spells'⟩ := second.reads
  refine ⟨⟨ls ++ more, reads.trans reads', ?_⟩, ?_⟩
  · rw [← List.append_assoc]
    exact spells.append spells'
  · intro e mem
    rcases List.mem_append.1 mem with now | later
    · exact first.errors e now
    · exact reads.cuts (second.errors e later)

end Parsed.Faithful

namespace Parser

open Lexeme (Inside)

variable {n : Nat} {Place : List SyntaxKind → Prop} {before : List Lexeme} {held : List Tree}
  {p q : Parser n} {use : List Tree → Parser n} {c : Cursor} {h : c.length < n} {kind : SyntaxKind}

theorem faithful_look {choose : Cursor → Parser n}
    (chosen : (choose c c h).Faithful Place before c) :
    (look choose c h).Faithful Place before c := chosen

theorem faithful_emit (spells : Spells Place before held) :
    (emit held c h).Faithful Place before c :=
  ⟨⟨[], c.reads_nil, by simpa [emit] using spells⟩, by simp [emit]⟩

theorem faithful_skip : ((skip : Parser n) c h).Faithful Place [] c := faithful_emit spells_nil

theorem faithful_fail {problem : SyntaxKind → SyntaxProblem} :
    ((fail problem : Parser n) c h).Faithful Place [] c := by
  refine ⟨⟨[], c.reads_nil, spells_nil⟩, ?_⟩
  intro e mem
  obtain rfl : e = _ := List.mem_singleton.1 mem
  exact c.currentSpan_cuts

theorem faithful_andThen (first : (p c h).Faithful Place before c)
    (second : (q (p c h).next (p c h).bound).Faithful Place [] (p c h).next) :
    (andThen p q c h).Faithful Place before c :=
  first.append second _

/-- Trees that are handed out at once go before those that are still held. -/
theorem faithful_emitThen {ls : List Lexeme} (spells : Spells Place ls held)
    (second : (p c h).Faithful Place before c) :
    (andThen (emit held) p c h).Faithful Place (ls ++ before) c := by
  obtain ⟨more, reads, spells'⟩ := second.reads
  refine ⟨⟨more, reads, ?_⟩, second.errors⟩
  rw [List.append_assoc]
  exact spells.append spells'

theorem faithful_capture (Inner : List SyntaxKind → Prop) (first : (p c h).Faithful Inner [] c)
    (second : ∀ ls, Spells Inner ls (p c h).out →
      (use (p c h).out (p c h).next (p c h).bound).Faithful Place (before ++ ls) (p c h).next) :
    (capture p use c h).Faithful Place before c := by
  obtain ⟨ls, reads, spells⟩ := first.reads
  have used := second ls spells
  obtain ⟨more, reads', spells'⟩ := used.reads
  refine ⟨⟨ls ++ more, reads.trans reads', ?_⟩, ?_⟩
  · rw [← List.append_assoc]
    exact spells'
  · intro e mem
    rcases List.mem_append.1 mem with now | later
    · exact first.errors e now
    · exact reads.cuts (used.errors e later)

theorem faithful_trivia : ((trivia : Parser n) c h).Faithful Place [] c :=
  ⟨⟨c.trivia, c.reads_trivia, spells_trivia fun _ => Cursor.isTrivia_of_mem_trivia⟩,
    by simp [trivia]⟩

theorem faithful_marked (Inner : List SyntaxKind → Prop)
    (first : ∀ h, (p c.pastTrivia h).Faithful Inner [] c.pastTrivia)
    (second : ∀ ls out c h, Spells Inner ls out → (use out c h).Faithful Place ls c) :
    (marked p use c h).Faithful Place [] c :=
  faithful_andThen faithful_trivia
    (faithful_capture Inner (first _) fun ls spells => second ls _ _ _ spells)

theorem faithful_node
    (inner : ∀ h, (p c.pastTrivia h).Faithful (Inside kind Place) [] c.pastTrivia) :
    (node kind p c h).Faithful Place [] c :=
  faithful_marked _ inner fun _ _ _ _ spells => faithful_emit (spells_node spells)

theorem faithful_wrap (spells : Spells (Inside kind Place) before held)
    (inner : (p c h).Faithful (Inside kind Place) [] c) :
    (wrap kind held p c h).Faithful Place before c :=
  faithful_capture _ inner fun _ more => faithful_emit (spells_node (spells.append more))

theorem take_of_nil {use : List Tree → Lexeme → Parser n} {h : c.length < n + 1}
    (eq : c.pastTrivia.rest = []) : take use c h = trivia c h := by
  unfold take
  split
  · rfl
  · rename_i some
    rw [eq] at some
    cases some

/-- Behind the next significant lexeme, the continuation goes on. -/
theorem take_of_cons {use : List Tree → Lexeme → Parser n} {h : c.length < n + 1} {l : Lexeme}
    {rest : List Lexeme} (eq : c.pastTrivia.rest = l :: rest)
    (hd : Cursor.length ⟨c.pastTrivia.offset + l.size, rest⟩ < n) :
    take use c h =
      let a := use (c.trivia.map Tree.ofLexeme) l ⟨c.pastTrivia.offset + l.size, rest⟩ hd
      ⟨a.out, a.errors, a.next, Nat.lt_succ_of_lt a.bound⟩ := by
  unfold take
  split
  · rename_i none
    rw [none] at eq
    cases eq
  · rename_i l' rest' some
    obtain ⟨rfl, rfl⟩ : l' = l ∧ rest' = rest := by rw [eq] at some; simpa [eq_comm] using some
    rfl

theorem bumpAs_of_nil (eq : c.pastTrivia.rest = []) : bumpAs kind c h = trivia c h := by
  unfold bumpAs
  split
  · rfl
  · rename_i some
    rw [eq] at some
    cases some

theorem bumpAs_of_cons {l : Lexeme} {rest : List Lexeme} (eq : c.pastTrivia.rest = l :: rest)
    (hd : Cursor.length ⟨c.pastTrivia.offset + l.size, rest⟩ < n) :
    bumpAs kind c h =
      ⟨c.trivia.map Tree.ofLexeme ++ [.token kind l.text], [],
        ⟨c.pastTrivia.offset + l.size, rest⟩, hd⟩ := by
  unfold bumpAs
  split
  · rename_i none
    rw [none] at eq
    cases eq
  · rename_i l' rest' some
    obtain ⟨rfl, rfl⟩ : l' = l ∧ rest' = rest := by rw [eq] at some; simpa [eq_comm] using some
    rfl

/-- A node that starts with a token takes in no trivia. -/
theorem node_bumpThen_of_cons {h : c.length < n + 1} {l : Lexeme} {rest : List Lexeme}
    (eq : c.pastTrivia.rest = l :: rest)
    (hd : Cursor.length ⟨c.pastTrivia.offset + l.size, rest⟩ < n) :
    node kind (bumpThen p) c h =
      let a := p ⟨c.pastTrivia.offset + l.size, rest⟩ hd
      ⟨c.trivia.map Tree.ofLexeme ++ [.node kind (.ofLexeme l :: a.out)], a.errors, a.next,
        Nat.lt_succ_of_lt a.bound⟩ := by
  have eq' : c.pastTrivia.pastTrivia.rest = l :: rest := by simpa using eq
  have hd' : Cursor.length ⟨c.pastTrivia.pastTrivia.offset + l.size, rest⟩ < n := by simpa using hd
  have bound : c.pastTrivia.length < n + 1 := Nat.lt_of_le_of_lt c.length_pastTrivia_le h
  have inner : bumpThen p c.pastTrivia bound = _ := take_of_cons eq' hd'
  simp only [node, marked, andThen, capture, trivia, emit, inner]
  simp

theorem node_bump_of_cons {l : Lexeme} {rest : List Lexeme} (eq : c.pastTrivia.rest = l :: rest)
    (hd : Cursor.length ⟨c.pastTrivia.offset + l.size, rest⟩ < n) :
    node kind bump c h =
      ⟨c.trivia.map Tree.ofLexeme ++ [.node kind [.ofLexeme l]], [],
        ⟨c.pastTrivia.offset + l.size, rest⟩, hd⟩ := by
  have eq' : c.pastTrivia.pastTrivia.rest = l :: rest := by simpa using eq
  have hd' : Cursor.length ⟨c.pastTrivia.pastTrivia.offset + l.size, rest⟩ < n := by simpa using hd
  simp only [node, marked, andThen, capture, trivia, emit, bump, look, bumpAs_of_cons eq' hd']
  simp [Cursor.current_of_rest eq, Tree.ofLexeme]

/-- Reading a token, when the text is not over. -/
theorem faithful_take {use : List Tree → Lexeme → Parser n} {h : c.length < n + 1}
    (more : c.pastTrivia.rest ≠ [])
    (second : ∀ l d hd, c.current = l.kind →
      (use (c.trivia.map Tree.ofLexeme) l d hd).Faithful Place (before ++ (c.trivia ++ [l])) d) :
    (take use c h).Faithful Place before c := by
  obtain ⟨l, rest, eq, hd⟩ := Cursor.exists_token more h
  rw [take_of_cons eq hd]
  have reads := Cursor.reads_token eq
  have used := second l _ hd (Cursor.current_of_rest eq)
  obtain ⟨ls, reads', spells⟩ := used.reads
  exact ⟨⟨_, reads.trans reads', by simpa using spells⟩,
    fun e mem => reads.cuts (used.errors e mem)⟩

/-- Whether lexemes of a kind are stored as they are. -/
def Kept (Place : List SyntaxKind → Prop) (kind : SyntaxKind) : Prop :=
  ∀ l : Lexeme, kind = l.kind → ∀ around, Place around → l.stored around = l

theorem kept_inside (plain : kind.storesWords = false) {found : SyntaxKind} :
    Kept (Inside kind Place) found :=
  fun _ _ _ at_ => Lexeme.stored_of_inside at_ plain

theorem kept_mark (word : kind.namesProperty = false) : Kept Place kind := by
  rintro l rfl around _
  exact Lexeme.stored_of_not_word around word

theorem spells_inside {l : Lexeme} (plain : kind.storesWords = false) :
    Spells (Inside kind Place) [l] [.ofLexeme l] :=
  spells_token fun _ at_ => Lexeme.stored_of_inside at_ plain

theorem spells_bump {l : Lexeme} (kept : Kept Place c.current) (kind : c.current = l.kind) :
    Spells Place (c.trivia ++ [l]) (c.trivia.map Tree.ofLexeme ++ [.ofLexeme l]) :=
  (spells_trivia fun _ => Cursor.isTrivia_of_mem_trivia).append (spells_token (kept l kind))

theorem faithful_bumpThen {h : c.length < n + 1} (kept : Kept Place c.current)
    (second : ∀ c h, (p c h).Faithful Place [] c) :
    (bumpThen p c h).Faithful Place [] c := by
  by_cases eq : c.pastTrivia.rest = []
  · rw [bumpThen, take_of_nil eq]
    exact faithful_trivia
  · refine faithful_take eq fun l d hd kind => ?_
    exact faithful_andThen (faithful_emit (spells_bump kept kind)) (second _ _)

theorem faithful_bumpAs
    (as : ∀ l, c.significant? = some l → ∀ around, Place around →
      l.stored around = ⟨kind, l.text⟩) :
    (bumpAs kind c h).Faithful Place [] c := by
  cases eq : c.pastTrivia.rest with
  | nil =>
    rw [bumpAs_of_nil eq]
    exact faithful_trivia
  | cons l rest =>
    rw [bumpAs_of_cons eq (Nat.lt_trans (Cursor.length_behind eq _) h)]
    have trivia : Spells Place c.trivia (c.trivia.map Tree.ofLexeme) :=
      spells_trivia fun _ => Cursor.isTrivia_of_mem_trivia
    have token : Spells Place [l] [.token kind l.text] :=
      spells_token (as l (Cursor.significant?_of_rest eq))
    exact ⟨⟨_, Cursor.reads_token eq, trivia.append token⟩, by simp⟩

theorem faithful_bump (kept : Kept Place c.current) :
    ((bump : Parser n) c h).Faithful Place [] c := by
  refine faithful_bumpAs fun l next around at_ => ?_
  have kind := Cursor.current_of_significant? next
  rw [kept l kind around at_, kind]

theorem faithful_expect (kept : Kept Place kind) :
    ((expect kind : Parser n) c h).Faithful Place [] c := by
  refine faithful_look ?_
  split
  · rename_i at_
    exact faithful_bump (at_ ▸ kept)
  · exact faithful_fail

theorem faithful_reject {problem : SyntaxKind → SyntaxProblem} :
    ((reject problem : Parser n) c h).Faithful Place [] c := by
  refine faithful_look ?_
  split
  · exact faithful_fail
  · exact faithful_andThen faithful_fail (faithful_node fun _ => faithful_bump (kept_inside rfl))

theorem faithful_rejectThen {problem : SyntaxKind → SyntaxProblem} {h : c.length < n + 1}
    (second : ∀ c h, (p c h).Faithful Place [] c) :
    (rejectThen problem p c h).Faithful Place [] c := by
  refine faithful_look ?_
  split
  · exact faithful_fail
  · rename_i more
    refine faithful_andThen faithful_fail (faithful_take (Cursor.rest_ne_nil_of_current more) ?_)
    intro l d hd kind
    have error : Spells Place [l] [.node .error [.ofLexeme l]] :=
      spells_node (spells_inside rfl)
    have trivia : Spells Place c.trivia (c.trivia.map Tree.ofLexeme) :=
      spells_trivia fun _ => Cursor.isTrivia_of_mem_trivia
    exact faithful_andThen (faithful_emit (trivia.append error)) (second _ _)

theorem faithful_progress {p stuck : Parser (n + 1)} {h : c.length < n + 1}
    (first : (p c h).Faithful Place [] c) (again : ∀ c h, (q c h).Faithful Place [] c)
    (otherwise : ∀ c h, (stuck c h).Faithful Place [] c) :
    (progress p q stuck c h).Faithful Place [] c := by
  simp only [progress]
  split
  · exact first.append (again _ _) _
  · exact first.append (otherwise _ _) _

end Parser

end ScriptLint
