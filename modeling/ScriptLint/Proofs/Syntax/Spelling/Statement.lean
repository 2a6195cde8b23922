import ScriptLint.Syntax.Parse
import ScriptLint.Proofs.Syntax.Spelling.Expression

/-!
# Statements read faithfully

With the statements, every production reads faithfully if all that it calls behind a token does. So,
by induction on the bound of the parsers, all nonterminals do (`faithfully_all`).
-/

namespace ScriptLint.Grammar

open ScriptLint.Parser
open Lexeme (Anywhere Inside)

variable {n : Nat} {self : Nonterminal → Parser n} {Place : List SyntaxKind → Prop} {c : Cursor}
  {h : c.length < n + 1}

theorem faithful_semicolon {n : Nat} {h : c.length < n} :
    ((semicolon : Parser n) c h).Faithful Place [] c := by
  refine faithful_look ?_
  split
  · rename_i at_
    exact faithful_bump (at_ ▸ kept_mark rfl)
  split
  · exact faithful_skip
  · exact faithful_fail

theorem faithful_declarator (faithful : Faithfully self) :
    (declarator self c h).Faithful Place [] c := by
  refine faithful_node fun _ => faithful_andThen (faithful_look ?_) (faithful_look ?_)
  · split
    · exact faithful_name ‹_›
    · exact faithful_fail
  · split
    · exact faithful_bumpThen (kept_inside rfl) fun _ _ => faithful.apply .assignment rfl
    · exact faithful_skip

theorem faithful_declarators (faithful : Faithfully self) :
    (declarators self c h).Faithful Place [] c := by
  refine faithful_andThen (faithful_declarator faithful) (faithful_look ?_)
  split
  · rename_i comma
    exact faithful_bumpThen (comma ▸ kept_mark rfl) fun _ _ => faithful.apply .declarators rfl
  · exact faithful_skip

theorem faithful_declaration (faithful : Faithfully self) {inForHead : Bool} :
    (declaration self inForHead c h).Faithful Place [] c := by
  refine faithful_node fun _ => faithful_bumpThen (kept_inside rfl) fun _ _ => ?_
  refine faithful_andThen (faithful.apply .declarators rfl) ?_
  split
  · exact faithful_skip
  · exact faithful_semicolon

theorem faithful_block (faithful : Faithfully self) : (block self c h).Faithful Place [] c :=
  faithful_node fun _ => faithful_bumpThen (kept_inside rfl) fun _ _ =>
    faithful_andThen (faithful.apply (.statements true) rfl) (faithful_expect (kept_mark rfl))

theorem faithful_ifStatement (faithful : Faithfully self) :
    (ifStatement self c h).Faithful Place [] c := by
  refine faithful_node fun _ => faithful_bumpThen (kept_inside rfl) fun _ _ => ?_
  refine faithful_andThen (faithful_expect (kept_mark rfl)) ?_
  refine faithful_andThen (faithful.apply .expression rfl) ?_
  refine faithful_andThen (faithful_expect (kept_mark rfl)) ?_
  refine faithful_andThen (faithful.apply .statement rfl) (faithful_look ?_)
  split
  · exact faithful_andThen (faithful_bump (kept_inside rfl)) (faithful.apply .statement rfl)
  · exact faithful_skip

theorem faithful_returnStatement (faithful : Faithfully self) :
    (returnStatement self c h).Faithful Place [] c := by
  refine faithful_node fun _ => faithful_bumpThen (kept_inside rfl) fun _ _ => ?_
  refine faithful_andThen (faithful_look ?_) faithful_semicolon
  split
  · exact faithful.apply .expression rfl
  · exact faithful_skip

theorem faithful_forStart (faithful : Faithfully self) {h : c.length < n} :
    (forStart self c h).Faithful Place [] c := by
  refine faithful_andThen (faithful_expect (kept_mark rfl)) (faithful_look ?_)
  split
  · exact faithful.apply (.declaration true) rfl
  split
  · exact faithful_skip
  · exact faithful.apply .assignment rfl

theorem faithful_forEnd (faithful : Faithfully self) {h : c.length < n} :
    (forEnd self c h).Faithful Place [] c :=
  faithful_andThen (faithful_expect (kept_mark rfl)) (faithful.apply .statement rfl)

/-- In the head of a loop, the word `of` is stored as a keyword and no other name stands there. -/
theorem stored_in_loop {l : Lexeme} {around : List SyntaxKind}
    (at_ : Inside .forOfStatement Place around) :
    l.stored around = if l = ⟨.ident, ['o', 'f']⟩ then ⟨.ofKeyword, l.text⟩ else l := by
  obtain ⟨outer, _, rfl⟩ := at_
  simp [Lexeme.stored, Lexeme.isPropertyName]

theorem faithful_bumpOf {n : Nat} {h : c.length < n} (word : c.atWord ['o', 'f'] = true) :
    ((bumpAs .ofKeyword : Parser n) c h).Faithful (Inside .forOfStatement Place) [] c := by
  refine faithful_bumpAs fun l next around at_ => ?_
  have is_of : l = ⟨.ident, ['o', 'f']⟩ := by
    cases l
    simpa [Cursor.atWord, next] using word
  rw [stored_in_loop at_, if_pos is_of]

theorem faithful_forPart (faithful : Faithfully self) {close : SyntaxKind} {h : c.length < n}
    (word : close.namesProperty = false) : (forPart self close c h).Faithful Place [] c := by
  refine faithful_andThen (faithful_look ?_) (faithful_expect (kept_mark word))
  split
  · exact faithful_skip
  · exact faithful.apply .expression rfl

theorem faithful_forStatement (faithful : Faithfully self) (loop : c.current = .forKeyword) :
    (forStatement self c h).Faithful Place [] c := by
  refine faithful_take (more_of_current loop (by simp)) fun l d hd kind => ?_
  rw [List.nil_append]
  refine faithful_emitThen (spells_trivia fun _ => Cursor.isTrivia_of_mem_trivia) ?_
  refine faithful_capture Anywhere (faithful_forStart faithful) fun ls start => faithful_look ?_
  split
  · rename_i word
    have head : Spells (Inside .forOfStatement Place) [l] [.ofLexeme l] := by
      refine spells_token fun around at_ => ?_
      have other : l ≠ ⟨.ident, ['o', 'f']⟩ := by
        rintro rfl
        simp [loop] at kind
      rw [stored_in_loop at_, if_neg other]
    exact faithful_wrap (head.append start.anywhere) (faithful_andThen (faithful_bumpOf word)
      (faithful_andThen (faithful.apply .assignment rfl) (faithful_forEnd faithful)))
  split
  · exact faithful_wrap ((spells_inside rfl).append start.anywhere)
      (faithful_andThen (faithful_bump (kept_inside rfl))
        (faithful_andThen (faithful.apply .expression rfl) (faithful_forEnd faithful)))
  · refine faithful_wrap ((spells_inside rfl).append start.anywhere) ?_
    refine faithful_andThen (faithful_expect (kept_mark rfl)) ?_
    refine faithful_andThen (faithful_forPart faithful rfl) ?_
    refine faithful_andThen (faithful_look ?_) (faithful_forEnd faithful)
    split
    · exact faithful_skip
    · exact faithful.apply .expression rfl

theorem faithful_statementBody (faithful : Faithfully self) :
    (statementBody self c h).Faithful Place [] c := by
  refine faithful_look ?_
  generalize found : c.current = kind
  split
  iterate 3 exact faithful_declaration faithful
  · exact faithful_leaf rfl
  · exact faithful_block faithful
  · exact faithful_ifStatement faithful
  · exact faithful_returnStatement faithful
  · exact faithful_forStatement faithful found
  · exact faithful_skip
  · split
    · exact faithful_node fun _ =>
        faithful_andThen (faithful_expression faithful) faithful_semicolon
    · exact faithful_reject

theorem faithful_statement (faithful : Faithfully self) :
    (statement self c h).Faithful Place [] c := by
  simp only [statement]
  split
  · exact (faithful_statementBody faithful).append faithful_reject _
  · exact faithful_statementBody faithful

theorem faithful_statements (faithful : Faithfully self) {inBlock : Bool} :
    (statements self inBlock c h).Faithful Place [] c := by
  refine faithful_look ?_
  split
  · exact faithful_skip
  · exact faithful_progress (faithful_statementBody faithful)
      (fun _ _ => faithful.apply (.statements inBlock) rfl)
      fun _ _ => faithful_rejectThen fun _ _ => faithful.apply (.statements inBlock) rfl

/-- A production reads faithfully if all that it calls behind a token does. -/
theorem faithfully_production (faithful : Faithfully self) : Faithfully (production self) := by
  intro g before c h held
  have nothing (eq : g.held = []) : before = [] := by
    have leaves := held [] trivial
    rw [eq] at leaves
    cases leaves
    rfl
  cases g with
  | suffixes callee calls => exact faithful_suffixes faithful held
  | binaryTail left minimum => exact faithful_binaryTail faithful held
  | statement => exact nothing rfl ▸ faithful_statement faithful
  | statements inBlock => exact nothing rfl ▸ faithful_statements faithful
  | declaration inForHead => exact nothing rfl ▸ faithful_declaration faithful
  | declarators => exact nothing rfl ▸ faithful_declarators faithful
  | expression => exact nothing rfl ▸ faithful_expression faithful
  | sequenceTail => exact nothing rfl ▸ faithful_sequenceTail faithful
  | assignment => exact nothing rfl ▸ faithful_assignment faithful
  | binary minimum => exact nothing rfl ▸ faithful_binary faithful
  | unary => exact nothing rfl ▸ faithful_unary faithful
  | newTarget => exact nothing rfl ▸ faithful_newTarget faithful
  | arguments => exact nothing rfl ▸ faithful_arguments faithful
  | argumentList => exact nothing rfl ▸ faithful_argumentList faithful
  | arrayItems => exact nothing rfl ▸ faithful_arrayItems faithful
  | objectItems => exact nothing rfl ▸ faithful_objectItems faithful

theorem faithfully_all (n : Nat) : Faithfully (Nonterminal.parser n) := by
  induction n with
  | zero => exact fun _ _ _ h => absurd h (Nat.not_lt_zero _)
  | succ n ih => exact faithfully_production ih

end ScriptLint.Grammar
