import ScriptLint.Proofs.Syntax.Precedence.Expression
import ScriptLint.Syntax.Parse

/-!
# Operations of a text are in order

With the statements, every production gives what its nonterminal owes if all that it calls behind a
token do, and so by induction on the bound all parsers do (`grading_all`). So every operation in the
tree of a text, errors or not, has one operator and operands that bind as tightly as they must
(`parse_operations`).
-/

namespace ScriptLint

open ScriptLint.Tree (Graded Operand)

namespace Grammar

open ScriptLint.Parser

variable {n : Nat} {self : Nonterminal → Parser n}

theorem hands_semicolon : Hands Graded (semicolon : Parser n) := by
  apply hands_look
  intro c
  split
  · exact hands_bump
  split
  · exact hands_skip
  · exact hands_fail

theorem hands_declarator (grading : Grading self) : Hands Graded (declarator self) := by
  refine (hands_node rfl (hands_andThen (hands_look fun c => ?_) (hands_look fun c => ?_))).graded
  · split
    · exact (hands_leaf rfl).graded
    · exact hands_fail
  · split
    · exact hands_bumpThen (grading .assignment)
    · exact hands_skip

theorem hands_declarators (grading : Grading self) : Hands Graded (declarators self) := by
  refine hands_andThen (hands_declarator grading) (hands_look fun c => ?_)
  split
  · exact hands_bumpThen (grading .declarators)
  · exact hands_skip

theorem hands_declaration (grading : Grading self) {inForHead : Bool} :
    Hands Graded (declaration self inForHead) := by
  refine (hands_node rfl (hands_bumpThen (hands_andThen (grading .declarators) ?_))).graded
  split
  · exact hands_skip
  · exact hands_semicolon

theorem hands_block (grading : Grading self) : Hands Graded (block self) :=
  (hands_bracketed rfl (grading (.statements true))).graded

theorem hands_ifStatement (grading : Grading self) : Hands Graded (ifStatement self) := by
  have elsePart : Hands Graded (look (fun c =>
      if c.current = .elseKeyword then andThen bump (self .statement) else skip)) := by
    apply hands_look
    intro c
    split
    · exact hands_andThen hands_bump (grading .statement)
    · exact hands_skip
  exact (hands_node rfl (hands_bumpThen (hands_andThen hands_expect
    (hands_andThen (grading .expression) (hands_andThen hands_expect
      (hands_andThen (grading .statement) elsePart)))))).graded

theorem hands_returnStatement (grading : Grading self) : Hands Graded (returnStatement self) := by
  refine (hands_node rfl (hands_bumpThen (hands_andThen (hands_look fun c => ?_)
    hands_semicolon))).graded
  split
  · exact grading .expression
  · exact hands_skip

theorem hands_forStart (grading : Grading self) : Hands Graded (forStart self) := by
  refine hands_andThen hands_expect (hands_look fun c => ?_)
  split
  · exact grading (.declaration true)
  split
  · exact hands_skip
  · exact grading .assignment

theorem hands_forEnd (grading : Grading self) : Hands Graded (forEnd self) :=
  hands_andThen hands_expect (grading .statement)

/-- An expression, unless the part of the head that it would fill is empty. -/
theorem hands_unless (grading : Grading self) {close : SyntaxKind} :
    Hands Graded (look fun c => if c.current = close then skip else self .expression) := by
  apply hands_look
  intro c
  split
  · exact hands_skip
  · exact grading .expression

theorem hands_forStatement (grading : Grading self) : Hands Graded (forStatement self) := by
  refine hands_take Operand.graded fun gap keyword trivia => ?_
  refine hands_andThen (hands_emit fun t mem => (trivia t mem).graded) ?_
  refine hands_capture (hands_forStart grading) fun start graded => hands_look fun c => ?_
  have head := graded_cons (l := keyword) graded
  split
  · exact (hands_wrap rfl head (hands_andThen hands_bumpAs
      (hands_andThen (grading .assignment) (hands_forEnd grading)))).graded
  split
  · exact (hands_wrap rfl head (hands_andThen hands_bump
      (hands_andThen (grading .expression) (hands_forEnd grading)))).graded
  · exact (hands_wrap rfl head (hands_andThen hands_expect
      (hands_andThen (hands_andThen (hands_unless grading) hands_expect)
        (hands_andThen (hands_unless grading) (hands_forEnd grading))))).graded

theorem hands_statementBody (grading : Grading self) : Hands Graded (statementBody self) := by
  apply hands_look
  intro c
  split
  iterate 3 exact hands_declaration grading
  · exact (hands_leaf rfl).graded
  · exact hands_block grading
  · exact hands_ifStatement grading
  · exact hands_returnStatement grading
  · exact hands_forStatement grading
  · exact hands_skip
  · split
    · exact (hands_node rfl (hands_andThen (hands_expression grading) hands_semicolon)).graded
    · exact hands_reject.graded

theorem hands_statement (grading : Grading self) : Hands Graded (statement self) := by
  intro c h
  have body := hands_statementBody grading c h
  simp only [statement]
  split
  · exact List.forall_mem_append.2 ⟨body, hands_reject.graded _ _⟩
  · exact body

theorem hands_statements (grading : Grading self) {inBlock : Bool} :
    Hands Graded (statements self inBlock) := by
  apply hands_look
  intro c
  split
  · exact hands_skip
  · exact hands_progress (hands_statementBody grading) (grading (.statements inBlock))
      (hands_rejectThen (grading (.statements inBlock)))

/-- A production gives what its nonterminal owes if all that it calls behind a token do. -/
theorem grading_production (grading : Grading self) : Grading (production self) := by
  intro g
  cases g with
  | statement => exact hands_statement grading
  | statements inBlock => exact hands_statements grading
  | declaration inForHead => exact hands_declaration grading
  | declarators => exact hands_declarators grading
  | expression => exact hands_expression grading
  | sequenceTail => exact hands_sequenceTail grading
  | assignment => exact hands_assignment grading
  | binary minimum => exact fun _ _ => climbs_binary grading
  | binaryTail left minimum => exact fun _ _ => climbs_binaryTail grading
  | unary => exact hands_unary grading
  | suffixes callee calls => exact fun c h operand => hands_suffixes grading operand c h
  | newTarget => exact hands_newTarget grading
  | arguments => exact hands_arguments grading
  | argumentList => exact hands_argumentList grading
  | arrayItems => exact hands_arrayItems grading
  | objectItems => exact hands_objectItems grading

theorem grading_all (n : Nat) : Grading (Nonterminal.parser n) := by
  induction n with
  | zero => exact fun _ _ h => absurd h (Nat.not_lt_zero _)
  | succ n ih => exact grading_production ih

end Grammar

/-- The tree of every text, errors or not, has its operations in order. -/
theorem graded_parse (text : Text) : (parse text).tree.Graded := by
  have statements := Grammar.grading_all ((lex text).lexemes.length + 1) (.statements false)
  exact .node rfl (Parser.hands_andThen statements (Parser.hands_trivia Operand.graded) _ _)

/-- Every operation in the tree of a text, errors or not, has exactly one operator among its
children, which tells its kind; the operations next to the operator bind at least as tightly if they
stand before it and more tightly if they stand behind it. -/
theorem parse_operations (text : Text) {kind : SyntaxKind} {children : List Tree}
    (part : .node kind children ∈ (parse text).tree.parts) (operation : kind.isOperation = true) :
    ∃ before operator word behind level, children = before ++ .token operator word :: behind ∧
      Tree.Operation kind before operator behind level :=
  (graded_parse text).operation_of_mem_parts part operation

/-- A chain whose last operand is missing: `a??b-c*d-;`. -/
def chainText : Text := ['a', '?', '?', 'b', '-', 'c', '*', 'd', '-', ';']

theorem parse_operations_chainText : ∃ kind children,
    .node kind children ∈ (parse chainText).tree.parts ∧ kind.isOperation = true ∧
      ∃ before operator word behind level, children = before ++ .token operator word :: behind ∧
        Tree.Operation kind before operator behind level := by
  have some : (parse chainText).tree.parts.any Tree.isOperation = true := by decide +kernel
  obtain ⟨t, part, operation⟩ := List.any_eq_true.1 some
  cases t with
  | token kind text => cases operation
  | node kind children =>
    exact ⟨kind, children, part, operation, parse_operations chainText part operation⟩

end ScriptLint
