import ScriptLint.Proofs.Syntax.Mirrored.Statement
import ScriptLint.Proofs.Syntax.Plain

/-!
# Only line breaks count

Of the trivia of a text, parsing sees the lines that end between two tokens and nothing else
(`bare_parse_eq`). Runs at the same tokens with the same line breaks mirror each other; what remains
is the trivia before the first token. It is read before anything asks for a line break, so a program
may be parsed from behind it (`echoes_pastTrivia`).
-/

namespace ScriptLint

open ScriptLint.Tree (tagsOf bareOf)
open Parsed (Untagged)

namespace Lexeme

/-- The lexemes that are not trivia. -/
def significant (ls : List Lexeme) : List Lexeme := ls.filter fun l => ! l.isTrivia

/-- For each significant lexeme but the first, whether a line ends between it and the one before. -/
def lineBreaks (ls : List Lexeme) : List Bool := ((items false ls).map Prod.fst).tail

variable {ls : List Lexeme} {broken : Bool}

theorem map_snd_items (broken : Bool) (ls : List Lexeme) :
    (items broken ls).map Prod.snd = significant ls := by
  induction ls generalizing broken with
  | nil => rfl
  | cons l ls ih => cases trivia : l.isTrivia <;> simp [items, significant, trivia, ih]

/-- Items in a row are mirrored by themselves. -/
theorem along_self {marks : List Bool} {xs : List (Bool × Lexeme)} (length : marks.length = xs.length) :
    Along id marks xs xs := by
  induction xs generalizing marks with
  | nil =>
    obtain rfl := List.eq_nil_of_length_eq_zero length
    exact .nil
  | cons x xs ih =>
    cases marks with
    | nil => cases length
    | cons mark marks => exact .cons (.inl rfl) (ih (Nat.succ.inj length))

end Lexeme

namespace Cursor

variable {c d : Cursor}

theorem significant_pastTrivia (c : Cursor) :
    Lexeme.significant c.pastTrivia.rest = Lexeme.significant c.rest := by
  rw [← Lexeme.map_snd_items c.atLineBreak, ← Lexeme.map_snd_items false c.rest, items_pastTrivia c]
  rfl

/-- What is next is the first item. -/
theorem current_eq_of_items (same : Lexeme.items false c.pastTrivia.rest =
    Lexeme.items false d.pastTrivia.rest) : d.current = c.current := by
  have first : ∀ c : Cursor, c.current =
      ((Lexeme.items false c.rest).head?.map fun item => item.2.kind).getD .endOfInput := by
    intro c
    cases eq : c.pastTrivia.rest with
    | nil => simp [current, significant?, eq, items_of_nil eq]
    | cons l rest => simp [current_of_rest eq, items_of_cons eq]
  rw [← d.current_pastTrivia, ← c.current_pastTrivia, first, first, same]

/-- From behind the trivia, the same tokens with the same line breaks between them are ahead. -/
theorem items_pastTrivia_eq (tokens : Lexeme.significant c.rest = Lexeme.significant d.rest)
    (breaks : Lexeme.lineBreaks c.rest = Lexeme.lineBreaks d.rest) :
    Lexeme.items false c.pastTrivia.rest = Lexeme.items false d.pastTrivia.rest := by
  rw [← Lexeme.map_snd_items false, ← Lexeme.map_snd_items false] at tokens
  unfold Lexeme.lineBreaks at breaks
  cases eq : c.pastTrivia.rest with
  | nil =>
    cases eq' : d.pastTrivia.rest with
    | nil => rfl
    | cons l' rest' =>
      rw [items_of_nil eq, items_of_cons eq'] at tokens
      cases tokens
  | cons l rest =>
    cases eq' : d.pastTrivia.rest with
    | nil =>
      rw [items_of_cons eq, items_of_nil eq'] at tokens
      cases tokens
    | cons l' rest' =>
      rw [items_of_cons eq, items_of_cons eq', List.map_cons, List.map_cons] at tokens breaks
      obtain ⟨rfl, later⟩ := List.cons.inj tokens
      have behind : Lexeme.items false rest = Lexeme.items false rest' :=
        (List.zip_of_prod breaks later).trans (List.zip_of_prod rfl rfl).symm
      have plain : ¬ l.isTrivia = true := by simp [isTrivia_of_rest eq]
      rw [Lexeme.items, Lexeme.items, if_neg plain, if_neg plain, behind]

end Cursor

/-- Whether a run is one from behind the trivia at its cursor, which is handed out first. -/
structure Parsed.Flushes {n : Nat} (r : Parsed n) (c : Cursor) (s : Parsed n) : Prop where
  out : r.out = c.trivia.map Tree.ofLexeme ++ s.out
  errors : r.errors = s.errors
  next : r.next = s.next

namespace Parser

variable {n : Nat} {p : Parser n} {use : List Tree → Parser n} {c : Cursor} {kind : SyntaxKind}
  {h : c.length < n} {h' : c.pastTrivia.length < n}

theorem flushes_marked : (marked p use c h).Flushes c (marked p use c.pastTrivia h') := by
  constructor <;> simp [marked, andThen, trivia]

theorem flushes_node : (node kind p c h).Flushes c (node kind p c.pastTrivia h') := flushes_marked

theorem flushes_reject {problem : SyntaxKind → SyntaxProblem} (more : c.current ≠ .endOfInput) :
    ((reject problem : Parser n) c h).Flushes c ((reject problem : Parser n) c.pastTrivia h') := by
  have error : (node .error bump c h).Flushes c (node .error bump c.pastTrivia h') := flushes_node
  have span : c.pastTrivia.currentSpan = c.currentSpan := by
    simp only [Cursor.currentSpan, Cursor.significant?, Cursor.pastTrivia_pastTrivia]
  constructor <;> simp [reject, look, andThen, fail, more, error.out, error.errors, error.next, span]

theorem flushes_take {use : Lexeme → Parser n} {h : c.length < n + 1}
    {h' : c.pastTrivia.length < n + 1} (more : c.current ≠ .endOfInput) :
    (take (fun trivia l => andThen (emit trivia) (use l)) c h).Flushes c
      (take (fun trivia l => andThen (emit trivia) (use l)) c.pastTrivia h') := by
  obtain ⟨l, rest, eq, hd⟩ := Cursor.exists_token (Cursor.rest_ne_nil_of_current more) h
  have eq' : c.pastTrivia.pastTrivia.rest = l :: rest := by simpa using eq
  have hd' : Cursor.length ⟨c.pastTrivia.pastTrivia.offset + l.size, rest⟩ < n := by simpa using hd
  rw [take_of_cons eq hd, take_of_cons eq' hd']
  constructor <;> simp [andThen, emit]

theorem flushes_progress {p stuck : Parser (n + 1)} {q : Parser n} {h : c.length < n + 1}
    {h' : c.pastTrivia.length < n + 1} (first : (p c h).Flushes c (p c.pastTrivia h'))
    (reads : (p c.pastTrivia h').next.length < c.pastTrivia.length) :
    (progress p q stuck c h).Flushes c (progress p q stuck c.pastTrivia h') := by
  have shorter : (p c h).next.length < c.length := by
    rw [first.next]
    exact Nat.lt_of_lt_of_le reads c.length_pastTrivia_le
  rw [progress_of_lt reads, progress_of_lt shorter]
  constructor <;> simp [first.out, first.errors, first.next]

end Parser

/-- The statements of a program, from a cursor on. -/
def statementsFrom (n : Nat) (c : Cursor) (h : c.length < n) : Parsed n :=
  Nonterminal.parser n (.statements false) c h

namespace Grammar

open ScriptLint.Parser

variable {n : Nat} {self : Nonterminal → Parser n} {c : Cursor} {h : c.length < n + 1}
  {h' : c.pastTrivia.length < n + 1}

/-- Whatever a statement starts with is read behind the trivia before it. -/
theorem flushes_statementBody (more : c.current ≠ .endOfInput) :
    (statementBody self c h).Flushes c (statementBody self c.pastTrivia h') := by
  simp only [statementBody, look, Cursor.current_pastTrivia]
  generalize at_ : c.current = found at more
  split
  iterate 3 exact flushes_node
  · exact flushes_node
  · exact flushes_node
  · exact flushes_node
  · exact flushes_node
  · exact flushes_take (at_ ▸ more)
  · exact absurd rfl more
  · split
    · exact flushes_node
    · exact flushes_reject (at_ ▸ more)

/-- A program without errors may be read from behind the trivia that it starts with. -/
theorem flushes_statements {n : Nat} (h : c.length < n) (h' : c.pastTrivia.length < n)
    (more : c.current ≠ .endOfInput) (clean : (statementsFrom n c h).errors = [] ∨
      (statementsFrom n c.pastTrivia h').errors = []) :
    (statementsFrom n c h).Flushes c (statementsFrom n c.pastTrivia h') := by
  cases n with
  | zero => exact absurd h (Nat.not_lt_zero _)
  | succ n =>
    have goes : ¬ (c.current = .endOfInput ∨ false = true ∧ c.current = .rightBrace) := by
      simpa using more
    have goes' : ¬ (c.pastTrivia.current = .endOfInput ∨
        false = true ∧ c.pastTrivia.current = .rightBrace) := by simpa using more
    simp only [statementsFrom, Nonterminal.parser, production, statements, look, if_neg goes, if_neg goes'] at clean ⊢
    have body : (statementBody (Nonterminal.parser n) c h).Flushes c
        (statementBody (Nonterminal.parser n) c.pastTrivia h') := flushes_statementBody more
    have errors : (statementBody (Nonterminal.parser n) c.pastTrivia h').errors = [] := by
      rcases clean with here | behind
      · exact body.errors.symm.trans (errors_progress here)
      · exact errors_progress behind
    have both := mirroring_all Lexeme.respells_id n n
    refine flushes_progress body (reads_of_statementBody both ?_ errors).1
    rwa [Cursor.current_pastTrivia]

/-- A program without errors, at its first token or before the trivia there, is mirrored by one with
the same tokens and line breaks. -/
theorem echoes_statements {n m : Nat} {d : Cursor} {h : c.length < n} (h' : d.length < m)
    (more : c.current ≠ .endOfInput) (errors : (statementsFrom n c h).errors = [])
    (same : Lexeme.items false c.pastTrivia.rest = Lexeme.items false d.pastTrivia.rest)
    (length : (tagsOf (statementsFrom n c h).out).length =
      (Lexeme.items false c.pastTrivia.rest).length) :
    (statementsFrom m d h').errors = [] ∧
      bareOf id (statementsFrom m d h').out = bareOf id (statementsFrom n c h).out := by
  have behind := Nat.lt_of_le_of_lt c.length_pastTrivia_le h
  have behind' := Nat.lt_of_le_of_lt d.length_pastTrivia_le h'
  have flushes := flushes_statements h behind more (.inl errors)
  obtain ⟨marks, tags, echoes⟩ := (mirroring_all Lexeme.respells_id n m).apply (.statements false) rfl
    (flushes.errors.symm.trans errors)
  have along : c.pastTrivia.Along id (marks ++ []) d.pastTrivia := by
    obtain rfl : _ = marks := tags
    rw [flushes.out, Tree.tagsOf_append, Tree.tagsOf_trivia fun _ => Cursor.isTrivia_of_mem_trivia]
      at length
    rw [Cursor.Along, ← same, List.append_nil]
    exact Lexeme.along_self length
  have echo := echoes [] (by simp [Nonterminal.Behind, Untagged]) _ behind' along
  have more' : d.current ≠ .endOfInput := by rwa [Cursor.current_eq_of_items same]
  have flushes' := flushes_statements h' behind' more' (.inr echo.errors)
  have nothing : ∀ c : Cursor, bareOf id (c.trivia.map Tree.ofLexeme) = [] :=
    fun _ => Tree.bareOf_trivia fun _ => Cursor.isTrivia_of_mem_trivia
  refine ⟨flushes'.errors.trans echo.errors, ?_⟩
  rw [flushes.out, flushes'.out, Tree.bareOf_append, Tree.bareOf_append, nothing, nothing]
  exact echo.out

end Grammar

section
variable {ls ls' : List Lexeme}

theorem errors_programBody : (programBody ls).errors = [] ↔
    (statementsFrom (ls.length + 1) ⟨0, ls⟩ (Nat.lt_succ_self _)).errors = [] :=
  Parser.errors_andThen.trans (and_iff_left rfl)

theorem bareOf_programBody : bareOf id (programBody ls).out =
    bareOf id (statementsFrom (ls.length + 1) ⟨0, ls⟩ (Nat.lt_succ_self _)).out := by
  have nothing : ∀ c : Cursor, bareOf id (c.trivia.map Tree.ofLexeme) = [] :=
    fun _ => Tree.bareOf_trivia fun _ => Cursor.isTrivia_of_mem_trivia
  exact (Tree.bareOf_append _ _).trans ((congrArg _ (nothing _)).trans (List.append_nil _))

/-- There is a mark for each token. -/
theorem length_tagsOf_programBody (real : ∀ l ∈ ls, l.kind ≠ .endOfInput) :
    (tagsOf (programBody ls).out).length = (Lexeme.significant ls).length := by
  rw [Tree.length_tagsOf, countP_programBody real, List.countP_eq_length_filter, Lexeme.significant]

/-- A program without tokens. -/
theorem programBody_of_end (ended : Cursor.current ⟨0, ls⟩ = .endOfInput) :
    (programBody ls).errors = [] ∧ bareOf id (programBody ls).out = [] := by
  have nothing : statementsFrom (ls.length + 1) ⟨0, ls⟩ (Nat.lt_succ_self _) =
      Parser.skip ⟨0, ls⟩ (Nat.lt_succ_self _) := by
    simp only [statementsFrom, Nonterminal.parser, Grammar.production, Grammar.statements,
      Parser.look, ended, true_or, if_true]
    rfl
  rw [errors_programBody, bareOf_programBody, nothing]
  exact ⟨rfl, rfl⟩

/-- A text with the tokens of a text without errors, and with the same line breaks between them, has
no errors either, and the same tree up to trivia. -/
theorem echoes_breaks (real : ∀ l ∈ ls, l.kind ≠ .endOfInput) (errors : (programBody ls).errors = [])
    (tokens : Lexeme.significant ls = Lexeme.significant ls')
    (breaks : Lexeme.lineBreaks ls = Lexeme.lineBreaks ls') :
    (programBody ls').errors = [] ∧
      bareOf id (programBody ls').out = bareOf id (programBody ls).out := by
  have same := Cursor.items_pastTrivia_eq (c := ⟨0, ls⟩) (d := ⟨0, ls'⟩) tokens breaks
  by_cases more : Cursor.current ⟨0, ls⟩ = .endOfInput
  · have more' := (Cursor.current_eq_of_items same).trans more
    rw [(programBody_of_end more).2]
    exact programBody_of_end more'
  · have length : (tagsOf (programBody ls).out).length =
        (Lexeme.items false (Cursor.mk 0 ls).pastTrivia.rest).length := by
      rw [length_tagsOf_programBody real, ← List.length_map Prod.snd, Lexeme.map_snd_items,
        Cursor.significant_pastTrivia]
    rw [← Tree.tagsOf_bareOf Lexeme.respells_id, bareOf_programBody,
      Tree.tagsOf_bareOf Lexeme.respells_id] at length
    rw [errors_programBody] at errors ⊢
    rw [bareOf_programBody, bareOf_programBody]
    exact Grammar.echoes_statements _ more errors same length

end

/-- Parsing depends on trivia only through line breaks. Of two texts of the same tokens, with lines
that end between the same two tokens, one parses without errors if the other does, and then their
trees are the same up to trivia. -/
theorem bare_parse_eq (text text' : Text) (clean : (lex text).errors = [])
    (clean' : (lex text').errors = [])
    (tokens : Lexeme.significant (lex text).lexemes = Lexeme.significant (lex text').lexemes)
    (breaks : Lexeme.lineBreaks (lex text).lexemes = Lexeme.lineBreaks (lex text').lexemes) :
    ((parse text).errors = [] ↔ (parse text').errors = []) ∧
      ((parse text).errors = [] →
        Tree.bare id (parse text).tree = Tree.bare id (parse text').tree) := by
  constructor
  · constructor <;> intro parses
    · exact errors_parse.2 ⟨clean', (echoes_breaks (Lexeme.kind_of_mem_lexFrom 0 text)
        (errors_parse.1 parses).2 tokens breaks).1⟩
    · exact errors_parse.2 ⟨clean, (echoes_breaks (Lexeme.kind_of_mem_lexFrom 0 text')
        (errors_parse.1 parses).2 tokens.symm breaks.symm).1⟩
  · intro parses
    have same := (echoes_breaks (Lexeme.kind_of_mem_lexFrom 0 text) (errors_parse.1 parses).2 tokens
      breaks).2
    exact congrArg (fun ts => [Tree.node .program ts]) same.symm

/-- Two statements that the end of a line parts. -/
def partedText : Text := ['a', '\n', 'b']

/-- The same statements with a comment between them, behind an empty line. -/
def commentedText : Text := ['\n', 'a', ' ', '/', '*', '\r', '*', '/', 'b', ' ']

theorem bare_parse_eq_commentedText :
    (parse partedText).errors = [] ∧ (parse commentedText).errors = [] ∧
      Tree.bare id (parse partedText).tree = Tree.bare id (parse commentedText).tree := by
  have parses : (parse partedText).errors = [] := by decide +kernel
  have same := bare_parse_eq partedText commentedText (by decide +kernel) (by decide +kernel)
    (by decide +kernel) (by decide +kernel)
  exact ⟨parses, same.1.1 parses, same.2 parses⟩

end ScriptLint
