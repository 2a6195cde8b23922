import ScriptLint.Syntax.Parse
import ScriptLint.Proofs.Syntax.Neat.Expression

/-!
# Statements are neat

A statement ends in a semicolon, or where a line, a block or the text ends, so anything may come
behind it. With that every production hands out neat trees if all that it calls behind a token does.
By induction on the bound of the parsers, all nonterminals do (`neatly_all`).
-/

namespace ScriptLint

namespace Grammar

open ScriptLint.Parser
open ScriptLint.Tree (lexemesOf)
open Lexeme (lastKind)

variable {n : Nat} {self : Nonterminal → Parser n} {c : Cursor} {h : c.length < n + 1}
  {before : SyntaxKind}

theorem isNeat_semicolon {n : Nat} {h : c.length < n} :
    ((semicolon : Parser n) c h).IsNeat before := by
  refine isNeat_look ?_
  split
  · rename_i at_
    exact (isWhole_bump (ready_of_at at_ (by decide) rfl) (at_ ▸ by decide)).isNeat
  split
  · exact isNeat_skip
  · exact isWhole_fail.isNeat

theorem settles_semicolon {n : Nat} {h : c.length < n} :
    ((semicolon : Parser n) c h).Settles before := by
  refine settles_look ?_
  split
  · rename_i at_
    exact settles_bump (at_ ▸ by decide) (at_ ▸ by decide)
  split
  · rename_i ended
    intro _
    rcases ended with brace | ended | broken
    · exact ready_of_at brace (by decide) rfl
    · exact ready_of_at ended (by decide) rfl
    · refine (Cursor.ready_of_trivia ?_ _ : c.Ready _)
      intro none
      simp [Cursor.atLineBreak, none] at broken
  · exact settles_fail

theorem isWhole_declarator (neatly : Neatly self) (ready : c.Ready before) :
    (declarator self c h).IsWhole before := by
  refine isWhole_node (by decide) ready fun k _ ready =>
    isWhole_andThen (isWhole_look ?_) fun _ => isNeat_look ?_
  · split
    · exact isWhole_leaf (by decide) ready (‹c.pastTrivia.current = .ident› ▸ by decide)
    · exact isWhole_fail
  · split
    · rename_i assign
      refine (isWhole_bumpThen (ready_of_at assign (by decide) rfl) (assign ▸ by decide)
        fun d hd => ?_).isNeat
      rw [assign]
      exact (neatly.unit .assignment rfl trivial (ready_behind (by decide) (by decide) d)).isNeat
    · exact isNeat_skip

theorem isWhole_declarators (neatly : Neatly self) (ready : c.Ready before) :
    (declarators self c h).IsWhole before :=
  isWhole_andThen (isWhole_declarator neatly ready) fun _ => isNeat_behindComma fun d hd =>
    (neatly.unit .declarators rfl trivial (ready_behind (by decide) (by decide) d)).isNeat

theorem isOrdinary_of_declaration {k : SyntaxKind} (starts : k.startsDeclaration = true) :
    k.IsOrdinary ∧ k ≠ .dot := by
  refine ⟨⟨?_, ?_, ?_⟩, ?_⟩ <;> rintro rfl <;> cases starts

theorem isWhole_declaration (neatly : Neatly self) {inForHead : Bool} (ready : c.Ready before)
    (starts : c.current.startsDeclaration = true) :
    (declaration self inForHead c h).IsWhole before := by
  obtain ⟨ordinary, dot⟩ := isOrdinary_of_declaration starts
  refine isWhole_node (by decide) ready fun _ _ ready => ?_
  refine isWhole_bumpThen ready (by simpa using ordinary) fun d hd => ?_
  rw [Cursor.current_pastTrivia]
  refine isNeat_andThen (neatly.unit .declarators rfl trivial
    (ready_behind ordinary dot d)).isNeat fun _ => ?_
  split
  · exact isNeat_skip
  · exact isNeat_semicolon

theorem settles_declaration (starts : c.current.startsDeclaration = true) :
    (declaration self false c h).Settles before := by
  have more := (isOrdinary_of_declaration starts).1.1
  refine settles_node (settles_bumpThen (by simpa using more) fun d hd => ?_)
  exact settles_andThen fun _ => settles_semicolon

theorem isWhole_block (neatly : Neatly self) (ready : c.Ready before)
    (brace : c.current = .leftBrace) : (block self c h).IsWhole before :=
  isWhole_bracketed (by decide) ready (brace ▸ by decide) (brace ▸ by decide) (by decide) rfl
    fun _ _ _ ready => neatly.list (.statements true) rfl ready

theorem settles_block (brace : c.current = .leftBrace) : (block self c h).Settles before := by
  refine settles_node (settles_bumpThen (by simp [brace]) fun d hd => ?_)
  exact settles_andThen fun _ => settles_expect (by decide) (by decide)

theorem isNeat_elsePart (neatly : Neatly self) {h : c.length < n} (ready : c.Ready before) :
    (look (fun c => if c.current = .elseKeyword then andThen bump (self .statement) else skip)
      c h).IsNeat before := by
  refine isNeat_look ?_
  split
  · rename_i at_
    refine isNeat_andThen (isWhole_bump ready (at_ ▸ by decide)).isNeat fun errors => ?_
    exact (neatly.unit .statement rfl trivial
      (settles_bump (at_ ▸ by decide) (at_ ▸ by decide) errors)).isNeat
  · exact isNeat_skip

theorem isWhole_ifStatement (neatly : Neatly self) (ready : c.Ready before)
    (at_ : c.current = .ifKeyword) : (ifStatement self c h).IsWhole before := by
  refine isWhole_node (by decide) ready fun _ _ ready => ?_
  have inside : c.pastTrivia.current = .ifKeyword := by simpa using at_
  refine isWhole_bumpThen ready (inside ▸ by decide) fun d hd => ?_
  refine isNeat_andThen (isWhole_expect (by decide) rfl).isNeat fun errors => ?_
  refine isNeat_andThen (neatly.unit .expression rfl trivial
    (settles_expect (by decide) (by decide) errors)).isNeat fun _ => ?_
  refine isNeat_andThen (isWhole_expect (by decide) rfl).isNeat fun errors => ?_
  refine isNeat_andThen (neatly.unit .statement rfl trivial
    (settles_expect (by decide) (by decide) errors)).isNeat fun errors => ?_
  exact isNeat_elsePart neatly (neatly.settles errors)

theorem settles_ifStatement (neatly : Neatly self) (at_ : c.current = .ifKeyword) :
    (ifStatement self c h).Settles before := by
  refine settles_node (settles_bumpThen (by simp [at_]) fun d hd => ?_)
  refine settles_andThen fun _ => settles_andThen fun _ => settles_andThen fun _ => ?_
  refine settles_andThen fun errors => settles_look ?_
  split
  · exact settles_andThen fun _ => neatly.settles
  · exact fun _ => neatly.settles errors

theorem isWhole_returnStatement (neatly : Neatly self) (ready : c.Ready before)
    (at_ : c.current = .returnKeyword) : (returnStatement self c h).IsWhole before := by
  refine isWhole_node (by decide) ready fun _ _ ready => ?_
  have inside : c.pastTrivia.current = .returnKeyword := by simpa using at_
  refine isWhole_bumpThen ready (inside ▸ by decide) fun d hd => ?_
  rw [inside]
  refine isNeat_andThen (isNeat_look ?_) fun _ => isNeat_semicolon
  split
  · exact (neatly.unit .expression rfl trivial (ready_behind (by decide) (by decide) d)).isNeat
  · exact isNeat_skip

theorem settles_returnStatement (at_ : c.current = .returnKeyword) :
    (returnStatement self c h).Settles before := by
  refine settles_node (settles_bumpThen (by simp [at_]) fun d hd => ?_)
  exact settles_andThen fun _ => settles_semicolon

theorem isWhole_forStart (neatly : Neatly self) {h : c.length < n} :
    (forStart self c h).IsWhole before := by
  refine isWhole_andThen (isWhole_expect (by decide) rfl) fun errors => isNeat_look ?_
  have settled : ((expect .leftParen : Parser n) c h).Settles before :=
    settles_expect (by decide) (by decide)
  have ready := settled errors
  split
  · rename_i starts
    exact (neatly.unit (.declaration true) rfl starts ready).isNeat
  split
  · exact isNeat_skip
  · exact (neatly.unit .assignment rfl trivial ready).isNeat

theorem settles_forEnd (neatly : Neatly self) {h : c.length < n} :
    (forEnd self c h).Settles before :=
  settles_andThen fun _ => neatly.settles

theorem isNeat_forPart (neatly : Neatly self) {close : SyntaxKind} {h : c.length < n}
    (ordinary : close.IsOrdinary) (word : close.namesProperty = false) (ready : c.Ready before) :
    (forPart self close c h).IsNeat before := by
  refine isNeat_andThen (isNeat_look ?_) fun _ => (isWhole_expect ordinary word).isNeat
  split
  · exact isNeat_skip
  · exact (neatly.unit .expression rfl trivial ready).isNeat

theorem settles_forPart {close : SyntaxKind} {h : c.length < n} (ordinary : close.IsOrdinary)
    (dot : close ≠ .dot) : (forPart self close c h).Settles before :=
  settles_andThen fun _ => settles_expect ordinary dot

theorem isWhole_forEnd (neatly : Neatly self) {h : c.length < n} :
    (forEnd self c h).IsWhole before :=
  isWhole_andThen (isWhole_expect (by decide) rfl) fun errors =>
    (neatly.unit .statement rfl trivial (settles_expect (by decide) (by decide) errors)).isNeat

theorem ne_endOfInput_of_atWord {word : Text} (at_ : c.atWord word = true) :
    c.current ≠ .endOfInput := by
  intro ended
  cases next : c.significant? with
  | none => simp [Cursor.atWord, next] at at_
  | some l =>
    rw [Cursor.current_of_significant? next] at ended
    simp [Cursor.atWord, next, ended] at at_

/-- The word `of` may come right behind anything, a number included. -/
theorem isWhole_bumpOf {n : Nat} {h : c.length < n} (word : c.atWord ['o', 'f'] = true) :
    ((bumpAs .ofKeyword : Parser n) c h).IsWhole before := by
  refine isWhole_bumpAs (ne_endOfInput_of_atWord word) (by decide) (by decide) rfl
    fun l next => ⟨fun _ => ⟨by simp, fun _ => .inr ?_⟩, fun _ => by simp⟩
  simp only [Cursor.atWord, next, Option.any_some, Bool.and_eq_true, beq_iff_eq] at word
  exact word.2

theorem isWhole_bumpIn {n : Nat} {h : c.length < n} (at_ : c.current = .inKeyword) :
    ((bump : Parser n) c h).IsWhole before := by
  refine isWhole_look (isWhole_bumpAs ?_ ?_ ?_ ?_ fun l _ => ?_) <;> rw [at_]
  iterate 4 decide
  exact ⟨fun _ => ⟨by simp, fun _ => .inl rfl⟩, fun _ => by simp⟩

theorem isWhole_forStatement (neatly : Neatly self) (ready : c.Ready before)
    (at_ : c.current = .forKeyword) : (forStatement self c h).IsWhole before := by
  refine isWhole_take (at_ ▸ by decide) fun l rest d hd eq => ?_
  have kind : SyntaxKind.forKeyword = l.kind := at_ ▸ Cursor.current_of_rest eq
  have first : (forStart self d hd).IsWhole l.kind := isWhole_forStart neatly
  refine isWhole_emitThen joined_pastTrivia (isWhole_capture first fun start e he inner => ?_)
  have token : Joined (lastKind before c.trivia) [.ofLexeme l] :=
    joined_token (kind ▸ by decide) (ready.mayFollow eq)
  have head : Whole (lastKind before (lexemesOf (c.trivia.map Tree.ofLexeme)))
      (.ofLexeme l :: start) := by
    rw [Tree.lexemesOf_map_ofLexeme]
    exact Whole.behind (by simpa using inner) token
  refine isWhole_look ?_
  split
  · rename_i word
    refine isWhole_wrap (by decide) head
      (isNeat_andThen (isWhole_bumpOf word).isNeat fun errors => ?_)
    exact isNeat_andThen (neatly.unit .assignment rfl trivial (settles_bumpAs
      (ne_endOfInput_of_atWord word) (by decide) (by decide) errors)).isNeat fun _ =>
        (isWhole_forEnd neatly).isNeat
  split
  · rename_i at_
    refine isWhole_wrap (by decide) head
      (isNeat_andThen (isWhole_bumpIn at_).isNeat fun errors => ?_)
    exact isNeat_andThen (neatly.unit .expression rfl trivial
      (settles_bump (at_ ▸ by decide) (at_ ▸ by decide) errors)).isNeat fun _ =>
        (isWhole_forEnd neatly).isNeat
  · refine isWhole_wrap (by decide) head
      (isNeat_andThen (isWhole_expect (by decide) rfl).isNeat fun errors => ?_)
    refine isNeat_andThen (isNeat_forPart neatly (by decide) rfl
      (settles_expect (by decide) (by decide) errors)) fun errors => ?_
    refine isNeat_andThen (isNeat_look ?_) fun _ => (isWhole_forEnd neatly).isNeat
    split
    · exact isNeat_skip
    · exact (neatly.unit .expression rfl trivial
        (settles_forPart (by decide) (by decide) errors)).isNeat

theorem settles_forStatement (neatly : Neatly self) (at_ : c.current = .forKeyword) :
    (forStatement self c h).Settles before := by
  refine settles_take (at_ ▸ by decide) fun l d hd => settles_andThen fun _ => ?_
  refine settles_capture fun start e he => settles_look ?_
  have ends {e : Cursor} {k : SyntaxKind} {he} : (forEnd self e he).Settles k := settles_forEnd neatly
  split
  · exact settles_wrap (settles_andThen fun _ => settles_andThen fun _ => ends)
  split
  · exact settles_wrap (settles_andThen fun _ => settles_andThen fun _ => ends)
  · exact settles_wrap (settles_andThen fun _ => settles_andThen fun _ => settles_andThen fun _ => ends)

theorem isWhole_statementBody (neatly : Neatly self) (ready : c.Ready before)
    (more : c.current ≠ .endOfInput) : (statementBody self c h).IsWhole before := by
  refine isWhole_look ?_
  generalize at_ : c.current = found at more
  split
  iterate 3 exact isWhole_declaration neatly ready (at_ ▸ rfl)
  · exact isWhole_leaf (by decide) ready (at_ ▸ by decide)
  · exact isWhole_block neatly ready at_
  · exact isWhole_ifStatement neatly ready at_
  · exact isWhole_returnStatement neatly ready at_
  · exact isWhole_forStatement neatly ready at_
  · exact absurd rfl more
  · split
    · exact isWhole_node (by decide) ready fun _ _ ready =>
        isWhole_andThen (isWhole_expression neatly ready) fun _ => isNeat_semicolon
    · exact isWhole_reject

theorem settles_statementBody (neatly : Neatly self) (more : c.current ≠ .endOfInput) :
    (statementBody self c h).Settles before := by
  refine settles_look ?_
  generalize at_ : c.current = found at more
  split
  iterate 3 exact settles_declaration (at_ ▸ rfl)
  · refine settles_node (settles_bump ?_ ?_) <;> simp [at_]; decide
  · exact settles_block at_
  · exact settles_ifStatement neatly at_
  · exact settles_returnStatement at_
  · exact settles_forStatement neatly at_
  · exact absurd rfl more
  · split
    · exact settles_node (settles_andThen fun _ => settles_semicolon)
    · exact fun errors => absurd errors errors_reject

theorem statementBody_of_end (ended : c.current = .endOfInput) :
    statementBody self c h = skip c h := by
  simp [statementBody, look, ended]

/-- A statement that reads something is what it reads. -/
theorem statement_of_ne (read : (statementBody self c h).next.length ≠ c.length) :
    statement self c h = statementBody self c h := if_neg read

/-- A statement without errors reads something. -/
theorem statement_of_errors (errors : (statement self c h).errors = []) :
    c.current ≠ .endOfInput ∧ statement self c h = statementBody self c h := by
  by_cases stuck : (statementBody self c h).next.length = c.length
  · simp only [statement, if_pos stuck] at errors
    exact absurd (List.append_eq_nil_iff.1 errors).2 errors_reject
  · refine ⟨fun ended => stuck ?_, statement_of_ne stuck⟩
    rw [statementBody_of_end ended]
    rfl

theorem isWhole_statement (neatly : Neatly self) (ready : c.Ready before) :
    (statement self c h).IsWhole before := by
  intro errors
  obtain ⟨more, same⟩ := statement_of_errors errors
  rw [same] at errors ⊢
  exact isWhole_statementBody neatly ready more errors

theorem settles_statement (neatly : Neatly self) : (statement self c h).Settles before := by
  intro errors
  obtain ⟨more, same⟩ := statement_of_errors errors
  rw [same] at errors ⊢
  exact settles_statementBody neatly more errors

theorem isNeat_statements (neatly : Neatly self) {inBlock : Bool} (ready : c.Ready before) :
    (statements self inBlock c h).IsNeat before := by
  refine isNeat_look ?_
  split
  · exact isNeat_skip
  · rename_i more
    have more : c.current ≠ .endOfInput := fun ended => more (.inl ended)
    refine isNeat_progress (isWhole_statementBody neatly ready more).isNeat (fun errors hd => ?_) ?_
    · exact neatly.list (.statements inBlock) rfl (settles_statementBody neatly more errors)
    · exact fun errors => absurd errors errors_rejectThen

/-- A production is neat if all that it calls behind a token is. -/
theorem neatly_production (neatly : Neatly self) : Neatly (production self) where
  unit g isUnit _ _ _ asked ready := by
    cases g with
    | statement => exact isWhole_statement neatly ready
    | declaration inForHead => exact isWhole_declaration neatly ready asked
    | declarators => exact isWhole_declarators neatly ready
    | expression => exact isWhole_expression neatly ready
    | assignment => exact isWhole_assignment neatly ready
    | binary minimum => exact isWhole_binary neatly ready
    | unary => exact isWhole_unary neatly ready
    | newTarget => exact isWhole_newTarget neatly ready
    | arguments => exact isWhole_arguments neatly asked
    | _ => cases isUnit
  list g isList _ _ _ ready := by
    cases g with
    | statements inBlock => exact isNeat_statements neatly ready
    | argumentList => exact isNeat_argumentList neatly ready
    | arrayItems => exact isNeat_arrayItems neatly ready
    | objectItems => exact isNeat_objectItems neatly ready
    | _ => cases isList
  sequenceTail := isNeat_sequenceTail neatly
  suffixes whole := isWhole_suffixes neatly whole
  binaryTail whole := isWhole_binaryTail neatly whole
  settles := settles_statement neatly

theorem neatly_all (n : Nat) : Neatly (Nonterminal.parser n) := by
  induction n with
  | zero => constructor <;> intros <;> exact absurd ‹_ < 0› (Nat.not_lt_zero _)
  | succ n ih => exact neatly_production ih

end Grammar

/-- The trees of a text without errors are formed, and its lexemes keep apart. -/
theorem joined_programBody {ls : List Lexeme} (errors : (programBody ls).errors = []) :
    Joined .semicolon (programBody ls).out := by
  obtain ⟨clean, -⟩ := Parser.errors_andThen.1 errors
  refine Joined.append ?_ Parser.joined_pastTrivia
  have neat := (Grammar.neatly_all _).list (.statements false) rfl (Cursor.ready_semicolon _) clean
  rcases neat with none | whole
  · rw [none]
    exact ⟨fun t mem => absurd mem List.not_mem_nil, trivial⟩
  · exact whole.toJoined

end ScriptLint
