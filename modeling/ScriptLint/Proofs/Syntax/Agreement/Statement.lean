import ScriptLint.Proofs.Syntax.Agreement.Expression
import ScriptLint.Proofs.Syntax.Spelling.Statement

/-!
# The descent follows the grammar

With the statements, the routine of every nonterminal follows its parser (`agreeing_all`). A bound on
the lexemes left, which the parser has in its type, bounds the calls of the routine inside one another.
-/

namespace ScriptLint

namespace Grammar

open ScriptLint.Parser
open Descent (finishNode)

variable {n : Nat} {go : Routine → Descent Unit} {self : Nonterminal → Parser n} {c : Cursor}
  {h : c.length < n + 1} {k : Descent Unit} {held : List Tree}

theorem follows_semicolon {n : Nat} {h : c.length < n} :
    Follows (fun _ => Descent.semicolon) (pure ()) [] c ((semicolon : Parser n) c h) := by
  refine follows_look (follows_current (follows_ite (fun _ => follows_bump) fun _ => ?_))
  by_cases closed : c.current = .rightBrace ∨ c.current = .endOfInput
  · refine follows_pos closed ?_
    rw [if_pos (by rcases closed with eq | eq <;> simp [eq])]
    exact follows_skip
  refine follows_neg closed (follows_atLineBreak ?_)
  by_cases broken : c.atLineBreak = true
  · refine follows_pos broken ?_
    rw [if_pos (by simp [broken])]
    exact follows_skip
  · refine follows_neg broken ?_
    rw [if_neg (by simpa [broken] using closed)]
    exact follows_fail

theorem follows_declarator (agree : Agreeing go self) :
    Follows (fun _ => Descent.declarator go) (pure ()) [] c (declarator self c h) := by
  refine follows_node fun h => follows_andThen ?_ (Follows.before ?_ finishNode)
  · exact follows_look (follows_current (follows_ite (fun _ => follows_leaf) fun _ => follows_fail))
  · refine follows_look (follows_current (follows_ite (fun equals => ?_) fun _ => follows_skip))
    exact follows_bumpThen (by simp [equals]) fun d h => agree.apply .assignment d h rfl

theorem follows_declarators (agree : Agreeing go self) :
    Follows (fun _ => Descent.declarators go) (pure ()) [] c (declarators self c h) := by
  refine follows_andThen (follows_declarator agree) (follows_look (follows_current ?_))
  refine follows_ite (fun comma => ?_) fun _ => follows_skip
  exact follows_bumpThen (by simp [comma]) fun d h => agree.apply .declarators d h rfl

theorem follows_declaration (agree : Agreeing go self) {inForHead : Bool}
    (more : c.current ≠ .endOfInput) :
    Follows (fun _ => Descent.declaration go inForHead) (pure ()) [] c
      (declaration self inForHead c h) :=
  follows_nodeThen more fun d h => follows_andThen (agree.apply .declarators d h rfl)
    (follows_ite (fun _ => follows_skip) fun _ => follows_semicolon.before finishNode)

theorem follows_block (agree : Agreeing go self) (more : c.current ≠ .endOfInput) :
    Follows (fun _ => Descent.block go) (pure ()) [] c (block self c h) :=
  follows_bracketed (fun d h => agree.apply (.statements true) d h rfl) more

theorem follows_ifStatement (agree : Agreeing go self) (more : c.current ≠ .endOfInput) :
    Follows (fun _ => Descent.ifStatement go) (pure ()) [] c (ifStatement self c h) := by
  rw [Descent.ifStatement]
  refine follows_nodeThen more fun d h => follows_andThen follows_expect ?_
  refine follows_andThen (agree.apply .expression _ _ rfl) (follows_andThen follows_expect ?_)
  refine follows_andThen (agree.apply .statement _ _ rfl) (Follows.before ?_ finishNode)
  rw [Descent.elseBranch]
  refine follows_look (follows_current (follows_ite (fun _ => ?_) fun _ => follows_skip))
  exact follows_andThen follows_bump (agree.apply .statement _ _ rfl)

theorem follows_returnStatement (agree : Agreeing go self) (more : c.current ≠ .endOfInput) :
    Follows (fun _ => Descent.returnStatement go) (pure ()) [] c (returnStatement self c h) := by
  refine follows_nodeThen more fun d h => ?_
  refine follows_andThen (follows_look (follows_atLineBreak (follows_current ?_)))
    (follows_semicolon.before finishNode)
  exact follows_ite (fun _ => agree.apply .expression _ _ rfl) fun _ => follows_skip

theorem follows_expressionStatement (agree : Agreeing go self) :
    Follows (fun _ => Descent.expressionStatement go) (pure ()) [] c
      (node .expressionStatement (andThen (expression self) semicolon) c h) :=
  follows_node fun _ => follows_andThen (follows_expression agree)
    (follows_semicolon.before finishNode)

theorem follows_forStart (agree : Agreeing go self) {h : c.length < n} :
    Follows (fun _ => Descent.forStart go) (pure ()) [] c
      (look (fun c =>
        if c.current.startsDeclaration then self (.declaration true)
        else if c.current = .semicolon then skip
        else self .assignment) c h) := by
  refine follows_look (follows_current (follows_ite (fun starts => ?_) fun _ => ?_))
  · refine agree (.declaration true) c h fun _ ended => ?_
    simp [ended, SyntaxKind.startsDeclaration] at starts
  · exact follows_ite (fun _ => follows_skip) fun _ => agree.apply .assignment c h rfl

/-- What is run behind the head of a loop depends on the kind of loop that the head shows. -/
theorem forHead_bind (next : SyntaxKind → Descent Unit) :
    Descent.forHead go >>= next = (do
      if ← Descent.atWord ['o', 'f'] then
        Descent.bumpAs .ofKeyword
        go .assignment
        next .forOfStatement
      else if (← Descent.current) = .inKeyword then
        Descent.bump
        go .expression
        next .forInStatement
      else
        Descent.expect .semicolon
        Descent.forTest go
        Descent.expect .semicolon
        Descent.forStep go
        next .forStatement) := by
  simp only [Descent.forHead, bind_assoc]
  congr 1
  funext isOf
  split
  · simp only [bind_assoc, pure_bind]
  · simp only [bind_assoc]
    congr 1
    funext found
    split <;> simp only [bind_assoc, pure_bind]

theorem follows_forEnd (agree : Agreeing go self) {kind : SyntaxKind} {h : c.length < n} :
    Follows (fun mark => Descent.expect .rightParen >>= fun _ => Descent.startNodeAt mark kind >>=
      fun _ => go .statement >>= fun _ => finishNode) (pure ()) held c
      (wrap kind held (forEnd self) c h) :=
  follows_wrapRest (fun _ => follows_expect.before _)
    (follows_wrap ((agree.apply .statement _ _ rfl).before finishNode))

theorem follows_forStatement (agree : Agreeing go self) (more : c.current ≠ .endOfInput) :
    Follows (fun _ => Descent.forStatement go) (pure ()) [] c (forStatement self c h) := by
  rw [Descent.forStatement]
  refine follows_markThen more fun l d h => ?_
  refine follows_capture
    (fun _ => follows_andThen follows_expect ((follows_forStart agree).before _)) ?_
  simp only [forHead_bind]
  refine follows_look (follows_atWord (follows_ite (fun _ => ?_) fun _ => ?_))
  · exact follows_wrapRest (fun _ => follows_bumpAs.before _)
      (follows_wrapRest (fun _ => (agree.apply .assignment _ _ rfl).before _)
        (follows_forEnd agree))
  refine follows_current (follows_ite (fun _ => ?_) fun _ => ?_)
  · exact follows_wrapRest (fun _ => follows_bump.before _)
      (follows_wrapRest (fun _ => (agree.apply .expression _ _ rfl).before _)
        (follows_forEnd agree))
  have part {close : SyntaxKind} {d : Cursor} (h : d.length < n) :
      Follows (fun _ => Descent.current >>= fun found =>
        if found = close then pure () else go .expression) (pure ()) [] d
        (look (fun c => if c.current = close then skip else self .expression) d h) :=
    follows_look (follows_current (follows_ite (fun _ => follows_skip)
      fun _ => agree.apply .expression d h rfl))
  refine follows_wrapRest (fun _ => follows_expect.before _) ?_
  refine follows_wrapRest (fun _ => follows_andThen (part _) (follows_expect.before _)) ?_
  exact follows_wrapRest (fun _ => (part _).before _) (follows_forEnd agree)

theorem follows_statementBody (agree : Agreeing go self) :
    Follows (fun _ => Descent.statementBody go) (pure ()) [] c (statementBody self c h) := by
  rw [Descent.statementBody]
  refine follows_look (follows_current ?_)
  generalize found : c.current = kind
  split
  · exact follows_block agree (by simp [found])
  iterate 3 exact follows_declaration agree (by simp [found])
  · exact follows_ifStatement agree (by simp [found])
  · exact follows_forStatement agree (by simp [found])
  · exact follows_returnStatement agree (by simp [found])
  · exact follows_leaf
  · exact follows_skip
  · by_cases starts : kind.startsExpression = true
    · refine follows_pos starts ?_
      split <;> first | contradiction | skip
      rw [if_pos starts]
      exact follows_expressionStatement agree
    · refine follows_neg starts ?_
      split <;> first | contradiction | skip
      rw [if_neg starts]
      exact follows_reject

theorem follows_statement (agree : Agreeing go self) :
    Follows (fun _ => Descent.statement go) (pure ()) [] c (statement self c h) := by
  rw [Descent.statement]
  have body := (follows_statementBody (h := h) agree).before
  refine follows_left ?_
  simp only [statement]
  split
  · rename_i same
    refine (body _).append ?_ _
    exact follows_left (follows_pos same follows_reject)
  · rename_i other
    have stays : Follows (fun _ => Descent.left >>= fun left =>
        if left = c.length then Descent.reject .unexpected else pure ()) (pure ()) []
        (statementBody self c h).next (skip _ (statementBody self c h).bound) :=
      follows_left (follows_neg other follows_skip)
    simpa [skip, emit] using (body _).append stays (statementBody self c h).bound

/-- A statement, and then something else. -/
theorem statement_bind (next : Descent Unit) :
    (Descent.statement go >>= fun _ => next) = (do
      let before ← Descent.left
      Descent.statementBody go
      if (← Descent.left) = before then
        Descent.reject .unexpected
        next
      else next) := by
  rw [Descent.statement]
  simp only [bind_assoc]
  congr 1
  funext before
  congr 1
  funext _
  congr 1
  funext left
  split <;> simp only [pure_bind]

theorem follows_statements (agree : Agreeing go self) (faithful : Faithfully self)
    {inBlock : Bool} :
    Follows (fun _ => Descent.statements go inBlock) (pure ()) [] c
      (statements self inBlock c h) := by
  have read : (statementBody self c h).Faithful Lexeme.Anywhere [] c :=
    faithful_statementBody faithful
  have again (d : Cursor) (h : d.length < n) :
      Follows (fun _ => go (.statements inBlock)) (pure ()) [] d
        (self (.statements inBlock) d h) :=
    agree.apply (.statements inBlock) d h rfl
  refine follows_look (follows_current (follows_ite (fun _ => follows_skip) fun more => ?_))
  rw [statement_bind]
  -- A body that read nothing stands where it stood, and there the text was not over.
  refine follows_progress read.length_le (fun _ => (follows_statementBody agree).before _) again
    fun stands => follows_rejectThen ?_ again
  rw [read.next_eq stands]
  exact fun ended => more (.inl ended)

/-- A routine follows its production if this holds of all that is called behind a token. -/
theorem agreeing_production (agree : Agreeing go self) (faithful : Faithfully self) :
    Agreeing (Descent.step go) (production self) := by
  intro g c h token
  cases g with
  | suffixes callee calls => exact follows_suffixes agree
  | binaryTail left minimum => exact follows_binaryTail agree
  | statement => exact follows_statement agree
  | statements inBlock => exact follows_statements agree faithful
  | declaration inForHead => exact follows_declaration agree (token rfl)
  | declarators => exact follows_declarators agree
  | expression => exact follows_expression agree
  | sequenceTail => exact follows_sequenceTail agree
  | assignment => exact follows_assignment agree
  | binary minimum => exact follows_binary agree
  | unary => exact follows_unary agree
  | newTarget => exact follows_newTarget agree
  | arguments => exact follows_arguments agree (token rfl)
  | argumentList => exact follows_argumentList agree faithful
  | arrayItems => exact follows_arrayItems agree faithful
  | objectItems => exact follows_objectItems agree faithful

/-- A bound on lexemes is a bound on calls, and more calls do no harm. -/
theorem agreeing_all (n more : Nat) : Agreeing (Descent.run (n + more)) (Nonterminal.parser n) := by
  induction n with
  | zero => exact fun _ _ h => absurd h (Nat.not_lt_zero _)
  | succ n ih =>
    -- What a production asks for behind a token is asked with one lexeme and one call less.
    rw [Nat.succ_add]
    exact agreeing_production ih (faithfully_all n)

end Grammar

end ScriptLint
