import ScriptLint.Proofs.Syntax.Spelling.Statement
import ScriptLint.Proofs.Syntax.Neat.Statement
import ScriptLint.Proofs.Syntax.Mirrored.Expression

/-!
# Statements parse alike

A statement asks for the line break behind it, so what comes behind it must not be a template that
may differ there: it never is, since the trees that come behind it are neat. With the statements, two
runs of any production mirror each other if the runs of all do that it calls behind a token. So, by
induction on the bound of the first run, all runs do (`mirroring_all`), and texts that differ in
trivia parse alike (`echoes_programBody`).
-/

namespace ScriptLint

open ScriptLint.Tree (tagsOf bareOf)
open Lexeme (Anywhere)
open Parsed (Anything Untagged)

namespace Grammar

open ScriptLint.Parser

variable {n m : Nat} {self : Nonterminal → Parser n} {self' : Nonterminal → Parser m}
  {spell : Lexeme → Lexeme} {Behind : List Bool → Prop} {c : Cursor} {h : c.length < n + 1}

theorem mirrors_semicolon (respells : Lexeme.Respells spell) {n : Nat} {h : c.length < n} :
    ((semicolon : Parser n) c h).Mirrors spell Untagged [] c (semicolon : Parser m) := by
  refine mirrors_ask respells
    (fun found broken => if found = .semicolon then bump
      else if found = .rightBrace ∨ found = .endOfInput ∨ broken then skip
      else fail .expectedSemicolon)
    (fun found broken => if found = .semicolon then bump
      else if found = .rightBrace ∨ found = .endOfInput ∨ broken then skip
      else fail .expectedSemicolon) ?_ ?_
  · split
    · exact mirrors_bump respells
    split
    · exact mirrors_skip
    · exact mirrors_fail
  · by_cases ends : c.current = .semicolon ∨ c.current = .rightBrace ∨ c.current = .endOfInput
    · left
      intro broken
      rcases ends with at_ | at_ | at_ <;> simp [at_]
    · simp only [not_or] at ends
      refine .inr ⟨ends.2.2, fun at_ marks behind errors tags untagged => ?_⟩
      by_cases broken : c.atLineBreak
      · obtain rfl : marks = [] := by simpa [at_, broken, skip, emit] using tags.symm
        exact untagged
      · simp [at_, broken, fail] at errors

theorem mirrors_declarator (both : Mirroring spell self self') :
    (declarator self c h).Mirrors spell Behind [] c (declarator self') := by
  refine mirrors_node (by decide) fun _ => mirrors_andThen
    (mirrors_look both.respells fun d faces => ?_) fun _ =>
      mirrors_look both.respells fun d faces => ?_
  · rw [faces.current both.respells]
    split
    · exact mirrors_leaf both.respells (by decide)
    · exact mirrors_fail
  · rw [faces.current both.respells]
    split
    · exact mirrors_bumpThen both.respells fun _ _ => both.any .assignment rfl rfl
    · exact mirrors_skip

theorem mirrors_declarators (both : Mirroring spell self self') :
    (declarators self c h).Mirrors spell Behind [] c (declarators self') :=
  mirrors_andThen (mirrors_declarator both) fun _ =>
    mirrors_behindComma both.respells fun _ _ => both.any .declarators rfl rfl

theorem mirrors_declaration (both : Mirroring spell self self') {inForHead : Bool} :
    (declaration self inForHead c h).Mirrors spell (Nonterminal.declaration inForHead).Behind [] c
      (declaration self' inForHead) := by
  refine mirrors_node (by decide) fun _ => mirrors_bumpThen both.respells fun _ _ =>
    mirrors_andThen (both.any .declarators rfl rfl) fun _ => ?_
  cases inForHead with
  | true => exact mirrors_skip
  | false => exact mirrors_semicolon both.respells

theorem mirrors_block (both : Mirroring spell self self') :
    (block self c h).Mirrors spell Behind [] c (block self') := by
  refine mirrors_node (by decide) fun _ => mirrors_bumpThen both.respells fun _ _ =>
    mirrors_andThenOf Untagged (both.apply (.statements true) rfl)
      (fun _ => mirrors_expect both.respells) ?_
  exact fun errors behind _ => (isWhole_expect (by decide) rfl).untagged errors behind

theorem mirrors_elsePart (both : Mirroring spell self self') {h : c.length < n} :
    (look (fun c => if c.current = .elseKeyword then andThen bump (self .statement) else skip)
      c h).Mirrors spell Untagged [] c
      (look fun c => if c.current = .elseKeyword then andThen bump (self' .statement) else skip) := by
  refine mirrors_look both.respells fun d faces => ?_
  rw [faces.current both.respells]
  split
  · exact mirrors_andThen (mirrors_bump both.respells) fun _ => both.apply .statement rfl
  · exact mirrors_skip

theorem mirrors_ifStatement (both : Mirroring spell self self') :
    (ifStatement self c h).Mirrors spell Untagged [] c (ifStatement self') := by
  refine mirrors_node (by decide) fun _ => mirrors_bumpThen both.respells fun _ _ =>
    mirrors_andThen (mirrors_expect both.respells) fun _ =>
    mirrors_andThen (both.any .expression rfl rfl) fun _ =>
    mirrors_andThen (mirrors_expect both.respells) fun _ =>
    mirrors_andThenOf Untagged (both.apply .statement rfl) (fun _ => mirrors_elsePart both) ?_
  exact fun errors behind untagged =>
    (isNeat_elsePart both.neatly (Cursor.ready_semicolon _)).untagged errors untagged

theorem mirrors_returnStatement (both : Mirroring spell self self') :
    (returnStatement self c h).Mirrors spell Untagged [] c (returnStatement self') := by
  refine mirrors_node (by decide) fun _ => mirrors_bumpThen both.respells fun d hd =>
    mirrors_andThenOf Untagged ?_ (fun _ => mirrors_semicolon both.respells)
      fun errors behind untagged => isNeat_semicolon.untagged errors untagged
  refine mirrors_ask both.respells
    (fun found broken => if ! broken && found.startsExpression then self .expression else skip)
    (fun found broken => if ! broken && found.startsExpression then self' .expression else skip) ?_ ?_
  · split
    · exact both.any .expression rfl rfl
    · exact mirrors_skip
  · cases starts : d.current.startsExpression with
    | false => exact .inl fun broken => by simp
    | true =>
      refine .inr ⟨?_, fun at_ marks behind errors tags untagged => ?_⟩
      · intro ended
        rw [ended] at starts
        cases starts
      · by_cases broken : d.atLineBreak
        · obtain rfl : marks = [] := by simpa [broken, skip, emit] using tags.symm
          exact untagged
        · have whole : (self .expression d hd).IsWhole .semicolon :=
            both.neatly.unit .expression rfl trivial d.ready_semicolon
          simp only [broken, Bool.not_false, Bool.and_self, if_true] at errors tags
          obtain rfl : _ = marks := tags
          exact whole.untagged errors behind

theorem mirrors_forStart (both : Mirroring spell self self') {h : c.length < n} :
    (forStart self c h).Mirrors spell Behind [] c (forStart self') := by
  refine mirrors_andThen (mirrors_expect both.respells) fun _ =>
    mirrors_look both.respells fun d faces => ?_
  rw [faces.current both.respells]
  split
  · exact both.any (.declaration true) rfl rfl
  split
  · exact mirrors_skip
  · exact both.any .assignment rfl rfl

theorem mirrors_forEnd (both : Mirroring spell self self') {h : c.length < n} :
    (forEnd self c h).Mirrors spell Untagged [] c (forEnd self') :=
  mirrors_andThen (mirrors_expect both.respells) fun _ => both.apply .statement rfl

theorem mirrors_forPart (both : Mirroring spell self self') {close : SyntaxKind} {h : c.length < n} :
    (forPart self close c h).Mirrors spell Behind [] c (forPart self' close) := by
  refine mirrors_andThen (mirrors_look both.respells fun d faces => ?_) fun _ =>
    mirrors_expect both.respells
  rw [faces.current both.respells]
  split
  · exact mirrors_skip
  · exact both.any .expression rfl rfl

theorem mirrors_bumpOf (respells : Lexeme.Respells spell) {n : Nat} {h : c.length < n}
    (word : c.atWord ['o', 'f'] = true) :
    ((bumpAs .ofKeyword : Parser n) c h).Mirrors spell Behind [] c (bumpAs .ofKeyword : Parser m) := by
  refine mirrors_bumpAs rfl fun l next => ?_
  have ident : l.kind = .ident := by
    simp only [Cursor.atWord, next, Option.any_some, Bool.and_eq_true, beq_iff_eq] at word
    exact word.1
  rw [respells.word l (by rw [ident]; rfl), respells.word _ rfl]

theorem mirrors_forStatement (both : Mirroring spell self self')
    (more : c.pastTrivia.rest ≠ []) :
    (forStatement self c h).Mirrors spell Untagged [] c (forStatement self') := by
  refine mirrors_take false more fun l d hd _ plain ts trivia => ?_
  have here : ∀ l ∈ c.trivia, l.isTrivia = true := fun _ => Cursor.isTrivia_of_mem_trivia
  refine mirrors_triviaThen here trivia
    (mirrors_capture both.respells (mirrors_forStart both) fun _ start' same => ?_)
  have head : bareOf id (.ofLexeme (spell l) :: start') =
      bareOf spell (.ofLexeme l :: (forStart self d hd).out) := by
    rw [Tree.bareOf_cons plain, Tree.bareOf_cons (both.respells.significant plain), same]
    rfl
  have tags : [] ++ [false] ++ tagsOf (forStart self d hd).out =
      tagsOf (.ofLexeme l :: (forStart self d hd).out) := (Tree.tagsOf_cons plain _).symm
  rw [tags]
  refine mirrors_look both.respells fun e faces => ?_
  rw [faces.current both.respells, faces.atWord both.respells]
  split
  · exact mirrors_wrap (by decide) head (mirrors_andThen (mirrors_bumpOf both.respells ‹_›) fun _ =>
      mirrors_andThen (both.any .assignment rfl rfl) fun _ => mirrors_forEnd both)
  split
  · exact mirrors_wrap (by decide) head (mirrors_andThen (mirrors_bump both.respells) fun _ =>
      mirrors_andThen (both.any .expression rfl rfl) fun _ => mirrors_forEnd both)
  · refine mirrors_wrap (by decide) head (mirrors_andThen (mirrors_expect both.respells) fun _ =>
      mirrors_andThen (mirrors_forPart both) fun _ => mirrors_andThen
        (mirrors_look both.respells fun _ faces => ?_) fun _ => mirrors_forEnd both)
    rw [faces.current both.respells]
    split
    · exact mirrors_skip
    · exact both.any .expression rfl rfl

theorem mirrors_statementBody (both : Mirroring spell self self') :
    (statementBody self c h).Mirrors spell Untagged [] c (statementBody self') := by
  refine mirrors_look both.respells fun d faces => ?_
  rw [faces.current both.respells]
  generalize found : c.current = kind
  split
  iterate 3 exact mirrors_declaration both
  · exact mirrors_leaf both.respells (by decide)
  · exact mirrors_block both
  · exact mirrors_ifStatement both
  · exact mirrors_returnStatement both
  · exact mirrors_forStatement both (more_of_current found (by simp))
  · exact mirrors_skip
  · split
    · exact mirrors_node (by decide) fun _ => mirrors_andThen (mirrors_expression both) fun _ =>
        mirrors_semicolon both.respells
    · exact mirrors_reject

theorem reads_of_statementBody (both : Mirroring spell self self')
    (more : c.current ≠ .endOfInput) (errors : (statementBody self c h).errors = []) :
    (statementBody self c h).next.length < c.length ∧ tagsOf (statementBody self c h).out ≠ [] :=
  reads_of_whole (faithful_statementBody both.faithfully)
    (isWhole_statementBody both.neatly c.ready_semicolon more) errors

theorem mirrors_statement (both : Mirroring spell self self') :
    (statement self c h).Mirrors spell Untagged [] c (statement self') := by
  intro errors
  obtain ⟨more, same⟩ := statement_of_errors errors
  rw [same] at errors ⊢
  obtain ⟨-, some⟩ := reads_of_statementBody both more errors
  obtain ⟨marks, tags, echoes⟩ := mirrors_statementBody both errors
  refine ⟨marks, tags, fun behind untagged d hd along => ?_⟩
  have echo := echoes behind untagged d hd along
  obtain ⟨mark, marks, rfl⟩ := List.exists_cons_of_ne_nil (tags ▸ some)
  obtain ⟨ls, read⟩ := moves_of_faithful (faithful_statementBody both.faithfully')
  rwa [statement_of_ne (Nat.ne_of_lt (Cursor.length_lt_of_along along echo.next read))]

theorem mirrors_statements (both : Mirroring spell self self') {inBlock : Bool} :
    (statements self inBlock c h).Mirrors spell Untagged [] c (statements self' inBlock) := by
  refine mirrors_look both.respells fun d faces => ?_
  rw [faces.current both.respells]
  split
  · exact mirrors_skip
  · rename_i goes
    have more : c.current ≠ .endOfInput := fun ended => goes (.inl ended)
    refine mirrors_progress Untagged (mirrors_statementBody both)
      (reads_of_statementBody both more) ?_ ?_ ?_
    · exact fun d hd => moves_of_faithful (faithful_statementBody both.faithfully')
    · exact fun _ _ => both.apply (.statements inBlock) rfl
    · exact fun hd errors behind untagged =>
        (both.neatly.list (.statements inBlock) rfl (Cursor.ready_semicolon _)).untagged errors
          untagged

/-- Runs of a production mirror each other if the runs do of all that it calls behind a token. -/
theorem mirrors_production (both : Mirroring spell self self') {g g' : Nonterminal}
    (alike : Nonterminal.Alike spell g g') :
    (production self g c h).Mirrors spell g.Behind (tagsOf g.held) c (production self' g') := by
  cases alike with
  | suffixes same => exact mirrors_suffixes both same
  | binaryTail same => exact mirrors_binaryTail both same
  | same none =>
    rw [none]
    cases g with
    | suffixes callee calls =>
      obtain rfl : callee = [] := none
      exact mirrors_suffixes both rfl
    | binaryTail left minimum =>
      obtain rfl : left = [] := none
      exact mirrors_binaryTail both rfl
    | statement => exact mirrors_statement both
    | statements inBlock => exact mirrors_statements both
    | declaration inForHead => exact mirrors_declaration both
    | declarators => exact mirrors_declarators both
    | expression => exact mirrors_expression both
    | sequenceTail => exact mirrors_sequenceTail both
    | assignment => exact mirrors_assignment both
    | binary minimum => exact mirrors_binary both
    | unary => exact mirrors_unary both
    | newTarget => exact mirrors_newTarget both
    | arguments => exact mirrors_arguments both
    | argumentList => exact mirrors_argumentList both
    | arrayItems => exact mirrors_arrayItems both
    | objectItems => exact mirrors_objectItems both

theorem mirroring_all (respells : Lexeme.Respells spell) (n m : Nat) :
    Mirroring spell (Nonterminal.parser n) (Nonterminal.parser m) := by
  refine ⟨respells, neatly_all n, faithfully_all n, faithfully_all m, ?_⟩
  intro g g' alike c h
  induction n generalizing m g g' c with
  | zero => exact absurd h (Nat.not_lt_zero _)
  | succ n ih =>
    have behind (m : Nat) : Mirroring spell (Nonterminal.parser n) (Nonterminal.parser m) := by
      refine ⟨respells, neatly_all n, faithfully_all n, faithfully_all m, ?_⟩
      intro g g' alike c h
      exact ih m alike
    cases m with
    | succ m => exact mirrors_production (behind m) alike
    | zero =>
      -- No run is that short, but what the first run says of its marks it says all the same.
      intro errors
      obtain ⟨marks, tags, -⟩ := mirrors_production (behind 0) alike errors
      exact ⟨marks, tags, fun _ _ _ h => absurd h (Nat.not_lt_zero _)⟩

end Grammar

/-- A text with the significant lexemes of a text without errors, respelled, and with the same line
breaks, has no errors either, and the same tree up to trivia and spelling. -/
theorem echoes_programBody {spell : Lexeme → Lexeme} (respells : Lexeme.Respells spell)
    {ls ls' : List Lexeme} (errors : (programBody ls).errors = [])
    (along : Lexeme.Along spell (tagsOf (programBody ls).out) (Lexeme.items false ls)
      (Lexeme.items false ls')) :
    (programBody ls').errors = [] ∧
      bareOf id (programBody ls').out = bareOf spell (programBody ls).out := by
  have both := Grammar.mirroring_all respells (ls.length + 1) (ls'.length + 1)
  have mirrors : (programBody ls).Mirrors spell Untagged [] ⟨0, ls⟩
      (Parser.andThen (Nonterminal.parser _ (.statements false)) Parser.trivia :
        Parser (ls'.length + 1)) := by
    refine Parser.mirrors_andThenOf Untagged (both.apply (.statements false) rfl)
      (fun _ => Parser.mirrors_trivia) fun _ behind untagged => ?_
    have nothing : ∀ c : Cursor, tagsOf (c.trivia.map Tree.ofLexeme) = [] :=
      fun _ => Tree.tagsOf_trivia fun _ => Cursor.isTrivia_of_mem_trivia
    exact (nothing _).symm ▸ untagged
  obtain ⟨marks, tags, echoes⟩ := mirrors errors
  obtain rfl : _ = marks := tags
  have echo := echoes [] (by simp [Untagged]) ⟨0, ls'⟩ (Nat.lt_succ_self _)
    (by rw [List.append_nil]; exact along)
  exact ⟨echo.errors, echo.out⟩

end ScriptLint
