import ScriptLint.Proofs.Syntax.Following
import ScriptLint.Proofs.Syntax.Spelling.Expression

/-!
# The descent follows the expression grammar

The routine of a nonterminal is to follow its parser (`Agreeing`). As for what is read, this holds
of a production if it holds of all parsers that the production may call behind a token.
-/

namespace ScriptLint

/-- The routine of a nonterminal, with the mark that was taken before the trees it is handed. -/
def Nonterminal.routine : Nonterminal → Nat → Routine
  | .statement, _ => .statement
  | .statements inBlock, _ => .statements inBlock
  | .declaration inForHead, _ => .declaration inForHead
  | .declarators, _ => .declarators
  | .expression, _ => .expression
  | .sequenceTail, _ => .sequenceTail
  | .assignment, _ => .assignment
  | .binary minimum, _ => .binary minimum
  | .binaryTail _ minimum, mark => .binaryTail mark minimum
  | .unary, _ => .unary
  | .suffixes _ calls, mark => .suffixes mark calls
  | .newTarget, _ => .newTarget
  | .arguments, _ => .arguments
  | .argumentList, _ => .argumentList
  | .arrayItems, _ => .arrayItems
  | .objectItems, _ => .objectItems

/-- Whether a nonterminal is only asked for in front of a token. -/
def Nonterminal.needsToken : Nonterminal → Bool
  | .declaration _ | .arguments => true
  | _ => false

namespace Grammar

open ScriptLint.Parser
open Descent (finishNode)

variable {n : Nat} {go : Routine → Descent Unit} {self : Nonterminal → Parser n} {c : Cursor}
  {h : c.length < n + 1} {k : Descent Unit} {held : List Tree} {kind : SyntaxKind}

/-- Whether the routines of all nonterminals follow their parsers. -/
def Agreeing (go : Routine → Descent Unit) (self : Nonterminal → Parser n) : Prop :=
  ∀ g c h, (g.needsToken → c.current ≠ .endOfInput) →
    Follows (fun mark => go (g.routine mark)) (pure ()) g.held c (self g c h)

/-- Most nonterminals may be asked for anywhere. -/
theorem Agreeing.apply (agree : Agreeing go self) (g : Nonterminal) (c : Cursor) (h : c.length < n)
    (anywhere : g.needsToken = false) :
    Follows (fun mark => go (g.routine mark)) (pure ()) g.held c (self g c h) :=
  agree g c h (by simp [anywhere])

theorem follows_nameAs {n : Nat} {h : c.length < n} :
    Follows (fun _ => Descent.anyName) (pure ()) [] c
      ((node .identifier (bumpAs .ident) : Parser n) c h) :=
  follows_node fun _ => follows_bumpAs.before finishNode

theorem follows_propertyName {n : Nat} {h : c.length < n} :
    Follows (fun _ => Descent.propertyName) (pure ()) [] c ((propertyName : Parser n) c h) :=
  follows_look (follows_current (follows_ite (fun _ => follows_nameAs) fun _ => follows_fail))

theorem follows_bracketed {g : Nonterminal} {r : Routine} {close : SyntaxKind}
    (inner : ∀ d h, Follows (fun _ => go r) (pure ()) [] d (self g d h))
    (more : c.current ≠ .endOfInput) :
    Follows (fun _ => Descent.bracketed go kind r close) (pure ()) [] c
      (node kind (bumpThen (andThen (self g) (expect close))) c h) :=
  follows_nodeThen more fun d h => follows_andThen (inner d h) (follows_expect.before finishNode)

theorem follows_arguments (agree : Agreeing go self) (more : c.current ≠ .endOfInput) :
    Follows (fun _ => Descent.arguments go) (pure ()) [] c (arguments self c h) :=
  follows_bracketed (fun d h => agree.apply .argumentList d h rfl) more

theorem follows_newExpression (agree : Agreeing go self) (new : c.current = .newKeyword) :
    Follows (fun _ => Descent.newExpression go) (pure ()) [] c (newExpression self c h) := by
  rw [Descent.newExpression]
  refine follows_nodeThen (by simp [new]) fun d h => ?_
  refine follows_andThen (agree.apply .newTarget d h rfl) (Follows.before ?_ finishNode)
  rw [Descent.newArguments]
  refine follows_look (follows_current (follows_ite (fun paren => ?_) fun _ => follows_skip))
  exact agree .arguments _ _ fun _ => by simp [paren]

theorem follows_property (agree : Agreeing go self) :
    Follows (fun _ => Descent.property go) (pure ()) [] c (property self c h) := by
  rw [Descent.property]
  refine follows_node fun h => follows_andThen ?_ (Follows.before ?_ finishNode)
  · exact follows_look (follows_current (follows_ite (fun _ => follows_leaf) fun _ =>
      follows_ite (fun _ => follows_nameAs) fun _ => follows_fail))
  · rw [Descent.propertyValue]
    refine follows_look (follows_current (follows_ite (fun colon => ?_) fun _ => follows_skip))
    exact follows_bumpThen (by simp [colon]) fun d h => agree.apply .assignment d h rfl

theorem follows_separator {close : SyntaxKind} {n : Nat} {h : c.length < n} :
    Follows (fun _ => Descent.separator close) (pure ()) [] c ((separator close : Parser n) c h) :=
  follows_look (follows_current (follows_ite (fun _ => follows_skip) fun _ => follows_expect))

theorem follows_sequenceTail (agree : Agreeing go self) :
    Follows (fun _ => Descent.sequenceTail go) (pure ()) [] c (sequenceTail self c h) := by
  rw [Descent.sequenceTail]
  refine follows_look (follows_current (follows_ite (fun comma => ?_) fun _ => follows_skip))
  exact follows_bumpThen (by simp [comma]) fun d h =>
    follows_andThen (agree.apply .assignment d h rfl) (agree.apply .sequenceTail _ _ rfl)

theorem follows_primary (agree : Agreeing go self) :
    Follows (fun _ => Descent.primary go) (pure ()) [] c (primary self c h) := by
  rw [Descent.primary]
  refine follows_look (follows_current ?_)
  generalize at_ : c.current = found
  split
  · exact follows_leaf
  iterate 7 exact follows_leaf
  · exact follows_bracketed (fun d h => agree.apply .expression d h rfl) (by simp [at_])
  · exact follows_bracketed (fun d h => agree.apply .arrayItems d h rfl) (by simp [at_])
  · exact follows_bracketed (fun d h => agree.apply .objectItems d h rfl) (by simp [at_])
  iterate 6 exact follows_fail
  · have ends : found.endsExpression = false := by
      unfold SyntaxKind.endsExpression
      split <;> first | contradiction | rfl
    split <;> first | contradiction | skip
    rw [ends]
    exact follows_reject

theorem follows_objectItems (agree : Agreeing go self) (faithful : Faithfully self) :
    Follows (fun _ => Descent.objectItems go) (pure ()) [] c (objectItems self c h) := by
  have read : (andThen (property self) (separator .rightBrace) c h).Faithful Lexeme.Anywhere [] c :=
    faithful_andThen (faithful_property faithful) faithful_separator
  refine follows_look (follows_current (follows_unless (fun ended => ?_) fun more => ?_))
  · rcases ended with found | found <;> rw [found]
  generalize c.current = found at more
  split
  · simp at more
  · simp at more
  · exact follows_progress read.length_le
      (fun _ => follows_andThen (follows_property agree) (follows_separator.before _))
      (fun d h => agree.apply .objectItems d h rfl) fun _ => follows_skip

theorem follows_callee (agree : Agreeing go self) :
    Follows (fun _ => Descent.callee go) (pure ()) [] c (callee self c h) := by
  rw [Descent.callee]
  exact follows_look (follows_current (follows_ite (fun new => follows_newExpression agree new)
    fun _ => follows_primary agree))

theorem follows_taggedTemplate {use : List Tree → Parser n} {rest : Nat → Descent Unit}
    (template : c.current = .template) (again : ∀ ts d h, Follows rest k ts d (use ts d h)) :
    Follows (fun mark => Descent.startNodeAt mark .taggedTemplateExpression >>= fun _ =>
      Descent.leaf .templateLiteral >>= fun _ => finishNode >>= fun _ => rest mark) k held c
      (take (fun trivia l => use [.node .taggedTemplateExpression
        (held ++ trivia ++ [.node .templateLiteral [.ofLexeme l]])]) c h) := by
  have more : c.current ≠ .endOfInput := by simp [template]
  obtain ⟨l, tail, eq, hd⟩ := Cursor.exists_token (Cursor.rest_ne_nil_of_current more) h
  have inner : node .templateLiteral bump c h = _ := node_bump_of_cons eq (Nat.lt_succ_of_lt hd)
  have read : Follows (fun _ => Descent.leaf .templateLiteral) (pure ()) [] c
    (node .templateLiteral bump c h) := follows_leaf
  rw [inner] at read
  rw [take_of_cons eq hd]
  refine follows_enclose (fun mark => read.before _) (again _ _ hd) ?_ ?_ ?_ <;> simp

theorem follows_callArguments (agree : Agreeing go self) {use : List Tree → Parser n}
    {rest : Nat → Descent Unit} (paren : c.current = .leftParen)
    (again : ∀ ts d h, Follows rest k ts d (use ts d h)) :
    Follows (fun mark => Descent.startNodeAt mark .callExpression >>= fun _ =>
      Descent.arguments go >>= fun _ => finishNode >>= fun _ => rest mark) k held c
      (take (fun trivia l => capture (argumentsBody self) fun inner =>
        use [.node .callExpression
          (held ++ trivia ++ [.node .arguments (.ofLexeme l :: inner)])]) c h) := by
  have more : c.current ≠ .endOfInput := by simp [paren]
  obtain ⟨l, tail, eq, hd⟩ := Cursor.exists_token (Cursor.rest_ne_nil_of_current more) h
  have read := follows_arguments (h := h) agree more
  rw [arguments, node_bumpThen_of_cons eq hd] at read
  rw [take_of_cons eq hd]
  refine follows_enclose (fun mark => read.before _)
    (again _ _ (argumentsBody self _ hd).bound) ?_ ?_ ?_ <;> simp [capture]

theorem follows_suffixes (agree : Agreeing go self) {callee : List Tree} {calls : Bool} :
    Follows (fun mark => Descent.suffixes go mark calls) (pure ()) callee c
      (suffixes self callee calls c h) := by
  have again (ts : List Tree) (d : Cursor) (h : d.length < n) :
      Follows (fun mark => go (.suffixes mark calls)) (pure ()) ts d
        (self (.suffixes ts calls) d h) :=
    agree.apply (.suffixes ts calls) d h rfl
  simp only [Descent.suffixes]
  refine follows_look (follows_current ?_)
  generalize found : c.current = kind
  split
  · exact follows_ite (fun _ => follows_callArguments agree found again) fun _ => follows_emit
  · exact follows_extend (fun ts => self (.suffixes ts calls)) (fun _ => .memberExpression)
      (by simp [found]) (fun _ _ => rfl) (fun _ _ _ => follows_propertyName.before _) again
  · exact follows_extend (fun ts => self (.suffixes ts calls)) (fun _ => .memberExpression)
      (by simp [found]) (fun _ _ => rfl)
      (fun _ _ _ => follows_andThen (agree.apply .expression _ _ rfl) (follows_expect.before _))
      again
  · exact follows_taggedTemplate found again
  · split <;> first | contradiction | exact follows_emit

theorem follows_newTarget (agree : Agreeing go self) :
    Follows (fun _ => Descent.newTarget go) (pure ()) [] c (newTarget self c h) := by
  rw [Descent.newTarget]
  exact follows_marked (fun _ => follows_callee agree) fun _ _ _ => follows_suffixes agree

theorem follows_call (agree : Agreeing go self) :
    Follows (fun _ => Descent.call go) (pure ()) [] c (call self c h) := by
  rw [Descent.call]
  exact follows_marked (fun _ => follows_callee agree) fun _ _ _ => follows_suffixes agree

theorem follows_operand (agree : Agreeing go self) (more : c.current ≠ .endOfInput) :
    Follows (fun _ => Descent.operand go kind) (pure ()) [] c
      (node kind (bumpThen (self .unary)) c h) := by
  rw [Descent.operand]
  exact follows_nodeThen more fun d h => (agree.apply .unary d h rfl).before finishNode

theorem follows_unary (agree : Agreeing go self) :
    Follows (fun _ => Descent.unary go) (pure ()) [] c (unary self c h) := by
  rw [Descent.unary]
  refine follows_look (follows_current (follows_ite (fun operator => ?_) fun _ =>
    follows_ite (fun operator => ?_) fun _ => ?_))
  · refine follows_operand agree fun ended => ?_
    simp [ended, SyntaxKind.isPrefixOperator] at operator
  · refine follows_operand agree fun ended => ?_
    simp [ended, SyntaxKind.isUpdateOperator] at operator
  · refine follows_marked (fun _ => follows_call agree) fun operand d h => ?_
    refine follows_look (follows_current (follows_atLineBreak ?_))
    refine follows_ite (fun _ => ?_) fun _ => ?_
    · exact follows_wrap (follows_bump.before finishNode)
    · exact follows_emit

theorem follows_binaryTail (agree : Agreeing go self) {left : List Tree} {minimum : Nat} :
    Follows (fun mark => Descent.binaryTail go mark minimum) (pure ()) left c
      (binaryTail self left minimum c h) := by
  simp only [Descent.binaryTail]
  refine follows_look (follows_current ?_)
  cases known : c.current.bindingPower? with
  | none => exact follows_emit
  | some power =>
    have more : c.current ≠ .endOfInput := by
      intro ended
      simp [ended, SyntaxKind.bindingPower?] at known
    refine follows_ite (fun _ => follows_emit) fun _ => ?_
    exact follows_extend (fun ts => self (.binaryTail ts minimum)) (fun l => l.kind.binaryNode) more
      (fun l kind => by rw [kind])
      (fun _ d h => (agree.apply (.binary (power + 1)) d h rfl).before _)
      fun ts d h => agree.apply (.binaryTail ts minimum) d h rfl

theorem follows_binary (agree : Agreeing go self) {minimum : Nat} :
    Follows (fun _ => Descent.binary go minimum) (pure ()) [] c (binary self minimum c h) := by
  rw [Descent.binary]
  exact follows_marked (fun _ => follows_unary agree) fun _ _ _ => follows_binaryTail agree

theorem follows_conditional (agree : Agreeing go self) :
    Follows (fun _ => Descent.conditional go) (pure ()) [] c (conditional self c h) := by
  rw [Descent.conditional]
  refine follows_marked (fun _ => follows_binary agree) fun condition d h => ?_
  refine follows_look (follows_current (follows_ite (fun question => ?_) fun _ => follows_emit))
  refine follows_wrap (follows_bumpThen (by simp [question]) fun d h => ?_)
  exact follows_andThen (agree.apply .assignment d h rfl)
    (follows_andThen follows_expect ((agree.apply .assignment _ _ rfl).before finishNode))

theorem follows_assignment (agree : Agreeing go self) :
    Follows (fun _ => Descent.assignment go) (pure ()) [] c (assignment self c h) := by
  rw [Descent.assignment]
  refine follows_marked (fun _ => follows_conditional agree) fun target d h => ?_
  refine follows_look (follows_current (follows_ite (fun operator => ?_) fun _ => follows_emit))
  refine follows_wrap (follows_bumpThen (fun ended => ?_) fun d h => ?_)
  · simp [ended, SyntaxKind.isAssignmentOperator] at operator
  · exact (agree.apply .assignment d h rfl).before finishNode

theorem follows_arrayItems (agree : Agreeing go self) (faithful : Faithfully self) :
    Follows (fun _ => Descent.arrayItems go) (pure ()) [] c (arrayItems self c h) := by
  have read :
      (andThen (assignment self) (separator .rightBracket) c h).Faithful Lexeme.Anywhere [] c :=
    faithful_andThen (faithful_assignment faithful) faithful_separator
  refine follows_look (follows_current (follows_unless (fun ended => ?_) fun more => ?_))
  · rcases ended with found | found <;> rw [found]
  by_cases comma : c.current = .comma
  · refine follows_pos comma ?_
    rw [comma]
    exact follows_bumpThen (by simp [comma]) fun d h => agree.apply .arrayItems d h rfl
  · refine follows_neg comma ?_
    generalize c.current = found at more comma
    split
    · simp at more
    · simp at more
    · simp at comma
    · exact follows_progress read.length_le
        (fun _ => follows_andThen (follows_assignment agree) (follows_separator.before _))
        (fun d h => agree.apply .arrayItems d h rfl) fun _ => follows_skip

theorem follows_argumentList (agree : Agreeing go self) (faithful : Faithfully self) :
    Follows (fun _ => Descent.argumentList go) (pure ()) [] c (argumentList self c h) := by
  have read : (assignment self c h).Faithful Lexeme.Anywhere [] c := faithful_assignment faithful
  refine follows_look (follows_current (follows_unless (fun ended => ?_) fun more => ?_))
  · rcases ended with found | found <;> rw [found]
  refine follows_left ?_
  generalize c.current = found at more
  split
  · simp at more
  · simp at more
  refine follows_andThen (follows_assignment agree) (follows_look (follows_current ?_))
  refine follows_ite (fun comma => ?_) fun _ => follows_skip
  -- A comma was read, so the list has moved on and the check for that passes.
  refine follows_bumpBehind (by simp [comma]) fun d h less => follows_left ?_
  have shorter : d.length ≠ c.length := Nat.ne_of_lt (Nat.lt_of_lt_of_le less read.length_le)
  exact follows_neg shorter (agree.apply .argumentList d h rfl)

theorem follows_expression (agree : Agreeing go self) :
    Follows (fun _ => Descent.expression go) (pure ()) [] c (expression self c h) := by
  rw [Descent.expression]
  refine follows_marked (fun _ => follows_assignment agree) fun first d h => ?_
  refine follows_look (follows_current (follows_ite (fun _ => ?_) fun _ => follows_emit))
  exact follows_wrap ((follows_sequenceTail agree).before finishNode)

end Grammar

end ScriptLint
