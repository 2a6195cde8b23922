import ScriptLint.Proofs.Syntax.Precedence
import ScriptLint.Proofs.Syntax.Spelling.Expression

/-!
# Operators climb

Expressions keep their operations in order if all parsers do that they may call behind a token
(`Grading`). The one argument is that of `binaryTail`: whatever it was handed binds at least as
tightly as the operator ahead, as the right operand of the operator before stopped in front of it.
-/

namespace ScriptLint

open ScriptLint.Tree (Graded Operand)
open SyntaxKind (power)

/-- What a nonterminal owes at a cursor: trees in order, from operands single operands, and from the
two that read operators that these climb. -/
def Nonterminal.Owes {n : Nat} (c : Cursor) (r : Parsed n) : Nonterminal → Prop
  | .binary minimum => r.Climbs minimum
  | .binaryTail left minimum =>
      (∀ t ∈ left, t.Graded) → (∀ t ∈ left, t.Binds minimum) →
      (∀ ahead, c.current.bindingPower? = some ahead → ∀ t ∈ left, t.Binds ahead) →
      r.Climbs minimum
  | .suffixes callee _ => (∀ t ∈ callee, t.Operand) → ∀ t ∈ r.out, t.Operand
  | .unary | .newTarget => ∀ t ∈ r.out, t.Operand
  | _ => ∀ t ∈ r.out, t.Graded

namespace Grammar

open ScriptLint.Parser

variable {n : Nat} {self : Nonterminal → Parser n}

/-- Whether the parsers of all nonterminals give what these owe. -/
def Grading (self : Nonterminal → Parser n) : Prop :=
  ∀ (g : Nonterminal) c h, g.Owes c (self g c h)

theorem hands_leaf {kind : SyntaxKind} (plain : kind.isOperation = false) :
    Hands Operand (leaf kind : Parser n) :=
  hands_node plain hands_bump

theorem hands_nameAs : Hands Operand (node .identifier (bumpAs .ident) : Parser n) :=
  hands_node rfl hands_bumpAs

theorem hands_propertyName : Hands Graded (propertyName : Parser n) := by
  apply hands_look
  intro c
  split
  · exact hands_nameAs.graded
  · exact hands_fail

theorem hands_argumentsBody (grading : Grading self) : Hands Graded (argumentsBody self) :=
  hands_andThen (grading .argumentList) hands_expect

theorem hands_arguments (grading : Grading self) : Hands Graded (arguments self) :=
  (hands_node rfl (hands_bumpThen (hands_argumentsBody grading))).graded

/-- The callee with what is read behind it, as the callee of further suffixes. -/
theorem hands_suffix (grading : Grading self) {kind : SyntaxKind} (plain : kind.isOperation = false)
    {callee gap ts : List Tree} {calls : Bool} (operand : ∀ t ∈ callee, t.Operand)
    (trivia : ∀ t ∈ gap, t.Operand) (graded : ∀ t ∈ ts, t.Graded) :
    Hands Operand (self (.suffixes [.node kind (callee ++ gap ++ ts)] calls)) := by
  have before := List.forall_mem_append.2 ⟨operand, trivia⟩
  have all := List.forall_mem_append.2 ⟨fun t mem => (before t mem).graded, graded⟩
  have owes := grading (.suffixes [.node kind (callee ++ gap ++ ts)] calls)
  exact fun c h => owes c h (Tree.operand_node plain all)

theorem hands_suffixes (grading : Grading self) {callee : List Tree} {calls : Bool}
    (operand : ∀ t ∈ callee, t.Operand) : Hands Operand (suffixes self callee calls) := by
  apply hands_look
  intro c
  split
  · exact hands_take id fun gap dot trivia => hands_capture hands_propertyName fun name graded =>
      hands_suffix grading rfl operand trivia (graded_cons graded)
  · have index : Hands Graded (andThen (self .expression) (expect .rightBracket)) :=
      hands_andThen (grading .expression) hands_expect
    exact hands_take id fun gap bracket trivia => hands_capture index fun inner graded =>
      hands_suffix grading rfl operand trivia (graded_cons graded)
  · refine hands_take id fun gap template trivia => hands_suffix grading rfl operand trivia ?_
    exact List.forall_mem_singleton.2 (.node rfl (List.forall_mem_singleton.2 .token))
  · split
    · have inside := hands_argumentsBody grading
      refine hands_take id fun gap paren trivia => hands_capture inside fun inner graded =>
        hands_suffix grading rfl operand trivia ?_
      exact List.forall_mem_singleton.2 (.node rfl (graded_cons graded))
    · exact hands_emit operand
  · exact hands_emit operand

theorem hands_newExpression (grading : Grading self) : Hands Operand (newExpression self) := by
  refine hands_node rfl (hands_bumpThen (hands_andThen (Hands.graded (grading .newTarget)) ?_))
  apply hands_look
  intro c
  split
  · exact grading .arguments
  · exact hands_skip

theorem hands_property (grading : Grading self) : Hands Graded (property self) := by
  refine (hands_node rfl (hands_andThen (hands_look fun c => ?_) (hands_look fun c => ?_))).graded
  · split
    · exact (hands_leaf rfl).graded
    split
    · exact hands_nameAs.graded
    · exact hands_fail
  · split
    · exact hands_bumpThen (grading .assignment)
    · exact hands_skip

theorem hands_separator {close : SyntaxKind} : Hands Graded (separator close : Parser n) := by
  apply hands_look
  intro c
  split
  · exact hands_skip
  · exact hands_expect

theorem hands_objectItems (grading : Grading self) : Hands Graded (objectItems self) := by
  apply hands_look
  intro c
  split
  · exact hands_skip
  · exact hands_skip
  · exact hands_progress (hands_andThen (hands_property grading) hands_separator)
      (grading .objectItems) hands_skip

/-- What stands between brackets. -/
theorem hands_bracketed {kind close : SyntaxKind} {p : Parser n} (plain : kind.isOperation = false)
    (inner : Hands Graded p) : Hands Operand (node kind (bumpThen (andThen p (expect close)))) :=
  hands_node plain (hands_bumpThen (hands_andThen inner hands_expect))

theorem hands_primary (grading : Grading self) : Hands Operand (primary self) := by
  apply hands_look
  intro c
  split
  iterate 8 exact hands_leaf rfl
  · exact hands_bracketed rfl (grading .expression)
  · exact hands_bracketed rfl (grading .arrayItems)
  · exact hands_bracketed rfl (grading .objectItems)
  · split
    · exact hands_fail
    · exact hands_reject

theorem hands_callee (grading : Grading self) : Hands Operand (callee self) := by
  apply hands_look
  intro c
  split
  · exact hands_newExpression grading
  · exact hands_primary grading

theorem hands_newTarget (grading : Grading self) : Hands Operand (newTarget self) :=
  hands_marked id (hands_callee grading) fun _ => hands_suffixes grading

theorem hands_call (grading : Grading self) : Hands Operand (call self) :=
  hands_marked id (hands_callee grading) fun _ => hands_suffixes grading

theorem hands_unary (grading : Grading self) : Hands Operand (unary self) := by
  apply hands_look
  intro c
  split
  · exact hands_node rfl (hands_bumpThen (Hands.graded (grading .unary)))
  split
  · exact hands_node rfl (hands_bumpThen (Hands.graded (grading .unary)))
  · refine hands_marked id (hands_call grading) fun operand fits => hands_look fun c => ?_
    split
    · exact hands_wrap rfl (fun t mem => (fits t mem).graded) hands_bump
    · exact hands_emit fits

theorem climbs_emit {left : List Tree} {minimum : Nat} {c : Cursor} {h : c.length < n}
    (graded : ∀ t ∈ left, t.Graded) (binds : ∀ t ∈ left, t.Binds minimum)
    (stops : ∀ ahead, c.current.bindingPower? = some ahead → ahead < minimum) :
    (emit left c h).Climbs minimum :=
  ⟨graded, binds, stops⟩

/-- The right operand of an operator stopped in front of an operator that binds no more tightly, so
the operation may be the left operand of that one. -/
theorem climbs_operation (grading : Grading self) {operator : Lexeme} {left gap : List Tree}
    {level minimum : Nat} (known : operator.kind.level? = some level)
    (graded : ∀ t ∈ left, t.Graded) (binds : ∀ t ∈ left, t.Binds (power level))
    (trivia : ∀ t ∈ gap, t.Operand) (enough : minimum ≤ power level) {c : Cursor}
    {h : c.length < n} :
    (capture (self (.binary (power level + 1))) (fun right => self (.binaryTail
      [.node operator.kind.binaryNode (left ++ gap ++ .ofLexeme operator :: right)] minimum)) c h
      ).Climbs minimum := by
  have right := grading (.binary (power level + 1)) c h
  have before := List.forall_mem_append.2 ⟨graded, fun t mem => (trivia t mem).graded⟩
  have beforeBinds := List.forall_mem_append.2 ⟨binds, fun t mem => (trivia t mem).binds _⟩
  have node (least : Nat) (le : least ≤ power level) : Tree.Binds least (.node
      operator.kind.binaryNode (left ++ gap ++ .ofLexeme operator ::
        (self (.binary (power level + 1)) c h).out)) :=
    fun _ => ⟨level, Tree.level?_operation beforeBinds known, le⟩
  have tail := grading (.binaryTail [.node operator.kind.binaryNode
      (left ++ gap ++ .ofLexeme operator :: (self (.binary (power level + 1)) c h).out)] minimum)
    (self (.binary (power level + 1)) c h).next (self (.binary (power level + 1)) c h).bound
    (List.forall_mem_singleton.2 (.operation known before beforeBinds right.graded right.binds))
    (List.forall_mem_singleton.2 (node minimum enough))
    fun ahead at_ => List.forall_mem_singleton.2
      (node ahead (Nat.le_of_lt_succ (right.stops ahead at_)))
  exact ⟨tail.graded, tail.binds, tail.stops⟩

theorem climbs_binaryTail (grading : Grading self) {left : List Tree} {minimum : Nat} {c : Cursor}
    {h : c.length < n + 1} (graded : ∀ t ∈ left, t.Graded) (binds : ∀ t ∈ left, t.Binds minimum)
    (ready : ∀ ahead, c.current.bindingPower? = some ahead → ∀ t ∈ left, t.Binds ahead) :
    (binaryTail self left minimum c h).Climbs minimum := by
  simp only [binaryTail, look]
  cases known : c.current.bindingPower? with
  | none => exact climbs_emit graded binds fun ahead at_ => by rw [known] at at_; cases at_
  | some ahead =>
    dsimp only
    split
    · rename_i low
      refine climbs_emit graded binds fun other at_ => ?_
      obtain rfl : ahead = other := Option.some.inj (known.symm.trans at_)
      exact low
    · rename_i enough
      have more : c.current ≠ .endOfInput := by
        intro ended
        simp [ended, SyntaxKind.bindingPower?] at known
      obtain ⟨l, rest, eq, hd⟩ := Cursor.exists_token (Cursor.rest_ne_nil_of_current more) h
      obtain ⟨level, at_, rfl⟩ := SyntaxKind.exists_level known
      have operator : l.kind.level? = some level := Cursor.current_of_rest eq ▸ at_
      have climbs := climbs_operation grading operator graded (ready _ known) (operand_trivia c)
        (Nat.le_of_not_lt enough) (h := hd)
      rw [take_of_cons eq hd]
      exact ⟨climbs.graded, climbs.binds, climbs.stops⟩

/-- The first operand of a chain of operators fits in next to any of them. -/
theorem climbs_binary (grading : Grading self) {minimum : Nat} {c : Cursor} {h : c.length < n + 1} :
    (binary self minimum c h).Climbs minimum := by
  have left := hands_unary grading c.pastTrivia (trivia c h).bound
  have tail := climbs_binaryTail grading (fun t mem => (left t mem).graded)
    (fun t mem => (left t mem).binds minimum) (fun ahead _ t mem => (left t mem).binds ahead)
    (h := (unary self c.pastTrivia (trivia c h).bound).bound)
  have gap := operand_trivia c
  exact ⟨List.forall_mem_append.2 ⟨fun t mem => (gap t mem).graded, tail.graded⟩,
    List.forall_mem_append.2 ⟨fun t mem => (gap t mem).binds minimum, tail.binds⟩, tail.stops⟩

/-- An operand, and the node around it if an operator follows. -/
theorem hands_conditional (grading : Grading self) : Hands Graded (conditional self) := by
  have binary : Hands Graded (binary self 0) := fun _ _ => (climbs_binary grading).graded
  have branches : Hands Graded (andThen (self .assignment)
      (andThen (expect .colon) (self .assignment))) :=
    hands_andThen (grading .assignment) (hands_andThen hands_expect (grading .assignment))
  refine hands_marked Operand.graded binary fun condition graded => hands_look fun c => ?_
  split
  · exact (hands_wrap rfl graded (hands_bumpThen branches)).graded
  · exact hands_emit graded

theorem hands_assignment (grading : Grading self) : Hands Graded (assignment self) := by
  refine hands_marked Operand.graded (hands_conditional grading) fun target graded =>
    hands_look fun c => ?_
  split
  · exact (hands_wrap rfl graded (hands_bumpThen (grading .assignment))).graded
  · exact hands_emit graded

theorem hands_arrayItems (grading : Grading self) : Hands Graded (arrayItems self) := by
  apply hands_look
  intro c
  split
  · exact hands_skip
  · exact hands_skip
  · exact hands_bumpThen (grading .arrayItems)
  · exact hands_progress (hands_andThen (hands_assignment grading) hands_separator)
      (grading .arrayItems) hands_skip

theorem hands_argumentList (grading : Grading self) : Hands Graded (argumentList self) := by
  apply hands_look
  intro c
  split
  · exact hands_skip
  · exact hands_skip
  · refine hands_andThen (hands_assignment grading) (hands_look fun c => ?_)
    split
    · exact hands_bumpThen (grading .argumentList)
    · exact hands_skip

theorem hands_sequenceTail (grading : Grading self) : Hands Graded (sequenceTail self) := by
  apply hands_look
  intro c
  split
  · exact hands_bumpThen (hands_andThen (grading .assignment) (grading .sequenceTail))
  · exact hands_skip

theorem hands_expression (grading : Grading self) : Hands Graded (expression self) := by
  refine hands_marked Operand.graded (hands_assignment grading) fun first graded =>
    hands_look fun c => ?_
  split
  · exact (hands_wrap rfl graded (hands_sequenceTail grading)).graded
  · exact hands_emit graded

end Grammar

end ScriptLint
