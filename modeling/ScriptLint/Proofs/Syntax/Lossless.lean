import ScriptLint.Proofs.Syntax.Agreement.Statement

/-!
# Parsing keeps the text

The descent ends on every text, asks nothing impossible of its builder, and builds the tree that
`parse` gives (`descend_eq_parse`). The leaves of this tree are the lexemes of the text, each stored
as its place demands, and every error cuts a stretch out of the text (`parse_lossless`).
-/

namespace ScriptLint

open ScriptLint.Parser ScriptLint.Grammar

section
variable {n : Nat} {c : Cursor}

theorem rejectThen_reaches_end {p : Parser n} {h : c.length < n + 1}
    {problem : SyntaxKind → SyntaxProblem} (ends : ∀ c h, (p c h).next.current = .endOfInput) :
    (rejectThen problem p c h).next.current = .endOfInput := by
  simp only [rejectThen, look]
  split
  · assumption
  · rename_i more
    obtain ⟨l, rest, eq, hd⟩ := Cursor.exists_token (Cursor.rest_ne_nil_of_current more) h
    have failed : ((fail problem : Parser (n + 1)) c h).next.pastTrivia.rest = l :: rest := eq
    simp only [andThen, take_of_cons failed hd]
    exact ends _ _

theorem progress_reaches_end {p stuck : Parser (n + 1)} {q : Parser n} {h : c.length < n + 1}
    (again : ∀ c h, (q c h).next.current = .endOfInput)
    (otherwise : ∀ c h, (stuck c h).next.current = .endOfInput) :
    (progress p q stuck c h).next.current = .endOfInput := by
  simp only [progress]
  split
  · exact again _ _
  · exact otherwise _ _

/-- Statements outside of blocks are read up to the end of the text. -/
theorem statements_reach_end (n : Nat) (c : Cursor) (h : c.length < n) :
    (Nonterminal.parser n (.statements false) c h).next.current = .endOfInput := by
  induction n generalizing c with
  | zero => exact absurd h (Nat.not_lt_zero _)
  | succ n ih =>
    simp only [Nonterminal.parser, production, statements, look]
    split
    · rename_i ended
      simpa [skip, emit] using ended
    · exact progress_reaches_end ih fun c h => rejectThen_reaches_end ih

end

theorem programBody_faithful (lexemes : List Lexeme) :
    (programBody lexemes).Faithful Lexeme.Anywhere [] ⟨0, lexemes⟩ :=
  faithful_andThen ((faithfully_all _).apply (.statements false) rfl) faithful_trivia

/-- The leaves of a program are all of its lexemes: what the statements leave is trivia. -/
theorem programBody_spells {lexemes : List Lexeme} (real : ∀ l ∈ lexemes, l.kind ≠ .endOfInput) :
    Spells Lexeme.Anywhere lexemes (programBody lexemes).out := by
  obtain ⟨ls, reads, spells⟩ := (programBody_faithful lexemes).reads
  have whole : lexemes = ls ++ (programBody lexemes).next.rest := reads.1
  have ended : (programBody lexemes).next.rest = [] := by
    have ends := statements_reach_end (lexemes.length + 1) ⟨0, lexemes⟩ (Nat.lt_succ_self _)
    cases left : (programBody lexemes).next.rest with
    | nil => rfl
    | cons l rest =>
      have kind := Cursor.current_of_rest left
      rw [ends] at kind
      have among : l ∈ lexemes := by
        rw [whole, left]
        exact List.mem_append_right ls List.mem_cons_self
      exact absurd kind.symm (real l among)
  rw [ended, List.append_nil] at whole
  exact whole ▸ spells

theorem run_program (lexemes : List Lexeme) (more : Nat) (es : List SyntaxError) :
    Descent.program (lexemes.length + 1 + more) ⟨⟨0, lexemes⟩, .empty, es⟩ =
      (pure () : Descent Unit) ⟨(programBody lexemes).next,
        TreeBuilder.empty.grow [.node .program (programBody lexemes).out],
        es ++ (programBody lexemes).errors⟩ := by
  have body : Follows (fun _ => Descent.run (lexemes.length + 1 + more) (.statements false) >>=
      fun _ => Descent.eatTrivia >>= fun _ => Descent.finishNode) Descent.finishNode [] ⟨0, lexemes⟩
      (programBody lexemes) :=
    follows_andThen ((agreeing_all _ more).apply (.statements false) _ _ rfl)
      (follows_trivia.before Descent.finishNode)
  have opens : Descent.build (fun b => .ok (b.start .program)) ⟨⟨0, lexemes⟩, .empty, es⟩ =
      (pure () : Descent Unit) ⟨⟨0, lexemes⟩, TreeBuilder.empty.opened .program [], es⟩ := by
    rw [← TreeBuilder.start_eq_opened]
    exact Descent.run_build rfl
  have read := body (TreeBuilder.empty.opened .program []) es (TreeBuilder.ready_opened .program [])
  rw [TreeBuilder.grow_nil] at read
  exact (Descent.run_bind opens _).trans (read.trans (run_finishNode .empty .program [] _ _ _))

theorem descend_eq_parse (text : Text) (more : Nat) :
    descend ((lex text).lexemes.length + 1 + more) text = some (.ok (parse text)) := by
  simp only [descend]
  rw [run_program]
  rfl

theorem mem_sorted {e : SyntaxError} {errors : List SyntaxError} :
    e ∈ SyntaxError.sorted errors ↔ e ∈ errors :=
  List.mem_mergeSort

theorem errors_parse {text : Text} : (parse text).errors = [] ↔
    (lex text).errors = [] ∧ (programBody (lex text).lexemes).errors = [] := by
  have sorted : (parse text).errors = [] ↔
      ((lex text).errors ++ (programBody (lex text).lexemes).errors) = [] := by
    rw [List.eq_nil_iff_forall_not_mem, List.eq_nil_iff_forall_not_mem]
    exact forall_congr' fun e => not_congr mem_sorted
  rw [sorted, List.append_eq_nil_iff]

theorem parse_errors_cut (text : Text) : ∀ e ∈ (parse text).errors, e.span.Cuts 0 text := by
  intro e mem
  rcases List.mem_append.1 (mem_sorted.1 mem) with lexical | syntactic
  · exact Lexeme.lexFrom_cuts 0 text e lexical
  · have cut := (programBody_faithful (lex text).lexemes).errors e syntactic
    rwa [join_lex] at cut

theorem parse_spells (text : Text) :
    List.Forall₂ Lexeme.StoredAs (lex text).lexemes ((parse text).tree.placed []) :=
  programBody_spells (Lexeme.kind_of_mem_lexFrom 0 text) [.program] trivial

/-- Leaves that are lexemes stored as their places demand spell the same text. -/
theorem join_of_stored {ls : List Lexeme} {leaves : List (List SyntaxKind × Lexeme)}
    (stored : List.Forall₂ Lexeme.StoredAs ls leaves) :
    Lexeme.join (leaves.map Prod.snd) = Lexeme.join ls := by
  induction stored with
  | nil => rfl
  | cons same _ ih =>
    rw [List.map_cons, Lexeme.join_cons, Lexeme.join_cons, ih, same, Lexeme.text_stored]

/-- Parsing is total and keeps the text. The descent over a shared cursor and a tree builder ends on
every text, with one call more inside one another than there are lexemes or any bound above that. It
is refused nothing by the builder, and builds the tree of `parse`. The root is a program; the leaves
are the lexemes in order, each stored as its place demands; the tree spells the text; and every error
cuts a stretch out of the text, between characters. -/
theorem parse_lossless (text : Text) :
    (∀ more, descend ((lex text).lexemes.length + 1 + more) text = some (.ok (parse text))) ∧
      (parse text).tree.kind = .program ∧
      List.Forall₂ Lexeme.StoredAs (lex text).lexemes ((parse text).tree.placed []) ∧
      (parse text).tree.text = text ∧
      ∀ e ∈ (parse text).errors, e.span.start ≤ e.span.stop ∧ e.span.stop ≤ Text.size text ∧
        text.isBoundary e.span.start ∧ text.isBoundary e.span.stop := by
  refine ⟨descend_eq_parse text, rfl, parse_spells text, ?_, fun e mem =>
    (parse_errors_cut text e mem).within⟩
  rw [Tree.text, ← Tree.map_placed [], join_of_stored (parse_spells text), join_lex]

end ScriptLint
