import ScriptLint.Syntax.Grammar.Expression
import ScriptLint.Proofs.Syntax.Reading

/-!
# Expressions read faithfully

A production of the expression grammar reads faithfully if the parsers do that it may call behind a
token (`Faithfully`).
-/

namespace ScriptLint

open Lexeme (Anywhere Inside)

/-- The trees that a nonterminal is handed. -/
def Nonterminal.held : Nonterminal → List Tree
  | .suffixes callee _ => callee
  | .binaryTail left _ => left
  | _ => []

/-- Whether a nonterminal is the rest of a chain behind trees already read. -/
def Nonterminal.isTail : Nonterminal → Bool
  | .suffixes .. | .binaryTail .. => true
  | _ => false

theorem Nonterminal.held_of_not_tail {g : Nonterminal} (plain : g.isTail = false) : g.held = [] := by
  cases g <;> first | rfl | cases plain

namespace Grammar

open ScriptLint.Parser

variable {n : Nat} {self : Nonterminal → Parser n} {Place : List SyntaxKind → Prop} {c : Cursor}
  {h : c.length < n + 1}

/-- Whether the parsers of all nonterminals read faithfully. -/
def Faithfully (self : Nonterminal → Parser n) : Prop :=
  ∀ g before c h, Spells Anywhere before g.held → (self g c h).Faithful Anywhere before c

/-- Most nonterminals are handed nothing. -/
theorem Faithfully.apply (faithful : Faithfully self) (g : Nonterminal) {h : c.length < n}
    (none : g.held = []) : (self g c h).Faithful Place [] c :=
  (faithful g [] c h (none ▸ spells_nil)).anywhere

theorem faithful_leaf {kind : SyntaxKind} {n : Nat} {h : c.length < n}
    (plain : kind.storesWords = false) : ((leaf kind : Parser n) c h).Faithful Place [] c :=
  faithful_node fun _ => faithful_bump (kept_inside plain)

/-- A name that is no reserved word is stored as it is, whatever it names. -/
theorem faithful_name {n : Nat} {h : c.length < n} (ident : c.current = .ident) :
    ((leaf .identifier : Parser n) c h).Faithful Place [] c := by
  refine faithful_node fun _ => faithful_bump ?_
  rintro l kind around ⟨outer, _, rfl⟩
  rw [Cursor.current_pastTrivia, ident] at kind
  unfold Lexeme.stored
  have word : l.kind.isKeyword = false := by rw [← kind]; decide
  rw [if_neg (by simp [word]), if_neg (by simp)]

theorem faithful_nameAs {n : Nat} {h : c.length < n} {owner : SyntaxKind}
    (owns : owner = .memberExpression ∨ owner = .property)
    (names : c.current.namesProperty = true) :
    (node .identifier (bumpAs .ident : Parser n) c h).Faithful (Inside owner Place) [] c := by
  refine faithful_node fun _ => faithful_bumpAs ?_
  rintro l next around ⟨_, ⟨outer, _, rfl⟩, rfl⟩
  have kind := Cursor.current_of_significant? next
  rw [Cursor.current_pastTrivia] at kind
  have property : Lexeme.isPropertyName (.identifier :: owner :: outer) = true := by
    rcases owns with rfl | rfl <;> rfl
  unfold Lexeme.stored
  by_cases keyword : l.kind.isKeyword = true
  · rw [if_pos ⟨property, keyword⟩]
  · have ident : l.kind = .ident := by
      simpa [SyntaxKind.namesProperty, kind, keyword] using names
    rw [if_neg (by simp [keyword]), if_neg (by simp), ← ident]

theorem faithful_propertyName {n : Nat} {h : c.length < n} :
    ((propertyName : Parser n) c h).Faithful (Inside .memberExpression Place) [] c := by
  refine faithful_look ?_
  split
  · exact faithful_nameAs (.inl rfl) ‹_›
  · exact faithful_fail

theorem faithful_argumentsBody (faithful : Faithfully self) {h : c.length < n} :
    (argumentsBody self c h).Faithful Place [] c :=
  faithful_andThen (faithful.apply .argumentList rfl) (faithful_expect (kept_mark rfl))

theorem faithful_arguments (faithful : Faithfully self) :
    (arguments self c h).Faithful Place [] c :=
  faithful_node fun _ =>
    faithful_bumpThen (kept_inside rfl) fun _ _ => faithful_argumentsBody faithful

theorem more_of_current {found : SyntaxKind} (at_ : c.current = found)
    (more : found ≠ .endOfInput) : c.pastTrivia.rest ≠ [] :=
  Cursor.rest_ne_nil_of_current (at_ ▸ more)

/-- The callee that was read before goes into the node of the first suffix. -/
theorem faithful_suffixes (faithful : Faithfully self) {before : List Lexeme} {callee : List Tree}
    {calls : Bool} (spells : Spells Anywhere before callee) :
    (suffixes self callee calls c h).Faithful Anywhere before c := by
  have inside {kind : SyntaxKind} : Spells (Inside kind Anywhere) before callee := spells.anywhere
  have trivia {Place : List SyntaxKind → Prop} :
      Spells Place c.trivia (c.trivia.map Tree.ofLexeme) :=
    spells_trivia fun _ => Cursor.isTrivia_of_mem_trivia
  refine faithful_look ?_
  generalize found : c.current = kind
  split
  · refine faithful_take (more_of_current found (by simp)) fun l d hd kind => ?_
    refine faithful_capture (Inside .memberExpression Anywhere) faithful_propertyName
      fun ls name => faithful _ _ _ _ (spells_node ?_)
    simpa using (inside.append (spells_bump (kept_inside rfl) kind)).append name
  · refine faithful_take (more_of_current found (by simp)) fun l d hd kind => ?_
    refine faithful_capture (Inside .memberExpression Anywhere)
      (faithful_andThen (faithful.apply .expression rfl) (faithful_expect (kept_mark rfl)))
      fun ls index => faithful _ _ _ _ (spells_node ?_)
    simpa using (inside.append (spells_bump (kept_inside rfl) kind)).append index
  · refine faithful_take (more_of_current found (by simp)) fun l d hd kind => ?_
    refine faithful _ _ _ _ (spells_node ?_)
    rw [← List.append_assoc]
    exact (inside.append trivia).append (spells_node (spells_inside rfl))
  · split
    · refine faithful_take (more_of_current found (by simp)) fun l d hd kind => ?_
      refine faithful_capture (Inside .arguments (Inside .callExpression Anywhere))
        (faithful_argumentsBody faithful)
        fun ls inner => faithful _ _ _ _ (spells_node ?_)
      have list := spells_node ((spells_inside (l := l) rfl).append inner)
      simpa using (inside.append trivia).append list
    · exact faithful_emit spells
  · exact faithful_emit spells

theorem faithful_newExpression (faithful : Faithfully self) :
    (newExpression self c h).Faithful Place [] c := by
  refine faithful_node fun _ => faithful_bumpThen (kept_inside rfl) fun _ _ => ?_
  refine faithful_andThen (faithful.apply .newTarget rfl) (faithful_look ?_)
  split
  · exact faithful.apply .arguments rfl
  · exact faithful_skip

theorem faithful_property (faithful : Faithfully self) :
    (property self c h).Faithful Place [] c := by
  refine faithful_node fun _ => faithful_andThen (faithful_look ?_) (faithful_look ?_)
  · split
    · exact faithful_leaf rfl
    · split
      · exact faithful_nameAs (.inr rfl) ‹_›
      · exact faithful_fail
  · split
    · exact faithful_bumpThen (kept_inside rfl) fun _ _ => faithful.apply .assignment rfl
    · exact faithful_skip

theorem faithful_separator {close : SyntaxKind} {n : Nat} {h : c.length < n} :
    ((separator close : Parser n) c h).Faithful Place [] c := by
  refine faithful_look ?_
  split
  · exact faithful_skip
  · exact faithful_expect (kept_mark rfl)

theorem faithful_objectItems (faithful : Faithfully self) :
    (objectItems self c h).Faithful Place [] c := by
  refine faithful_look ?_
  generalize c.current = found
  split
  · exact faithful_skip
  · exact faithful_skip
  · exact faithful_progress (faithful_andThen (faithful_property faithful) faithful_separator)
      (fun _ _ => faithful.apply .objectItems rfl) fun _ _ => faithful_skip

theorem faithful_primary (faithful : Faithfully self) :
    (primary self c h).Faithful Place [] c := by
  refine faithful_look ?_
  generalize at_ : c.current = found
  split
  · exact faithful_name at_
  iterate 7 exact faithful_leaf rfl
  · refine faithful_node fun _ => faithful_bumpThen (kept_inside rfl) fun _ _ => ?_
    exact faithful_andThen (faithful.apply .expression rfl) (faithful_expect (kept_mark rfl))
  · refine faithful_node fun _ => faithful_bumpThen (kept_inside rfl) fun _ _ => ?_
    exact faithful_andThen (faithful.apply .arrayItems rfl) (faithful_expect (kept_mark rfl))
  · refine faithful_node fun _ => faithful_bumpThen (kept_inside rfl) fun _ _ => ?_
    exact faithful_andThen (faithful.apply .objectItems rfl) (faithful_expect (kept_mark rfl))
  · split
    · exact faithful_fail
    · exact faithful_reject

theorem faithful_callee (faithful : Faithfully self) :
    (callee self c h).Faithful Place [] c := by
  refine faithful_look ?_
  split
  · exact faithful_newExpression faithful
  · exact faithful_primary faithful

theorem faithful_newTarget (faithful : Faithfully self) :
    (newTarget self c h).Faithful Place [] c :=
  faithful_marked Anywhere (fun _ => faithful_callee faithful) fun _ _ _ _ target =>
    (faithful_suffixes faithful target).anywhere

theorem faithful_call (faithful : Faithfully self) : (call self c h).Faithful Place [] c :=
  faithful_marked Anywhere (fun _ => faithful_callee faithful) fun _ _ _ _ target =>
    (faithful_suffixes faithful target).anywhere

theorem faithful_unary (faithful : Faithfully self) : (unary self c h).Faithful Place [] c := by
  refine faithful_look ?_
  split
  · exact faithful_node fun _ =>
      faithful_bumpThen (kept_inside rfl) fun _ _ => faithful.apply .unary rfl
  split
  · exact faithful_node fun _ =>
      faithful_bumpThen (kept_inside rfl) fun _ _ => faithful.apply .unary rfl
  · refine faithful_marked Anywhere (fun _ => faithful_call faithful) ?_
    intro ls out d hd operand
    refine faithful_look ?_
    split
    · exact faithful_wrap operand.anywhere (faithful_bump (kept_inside rfl))
    · exact faithful_emit operand.anywhere

theorem faithful_binaryTail (faithful : Faithfully self) {before : List Lexeme} {left : List Tree}
    {minimum : Nat} (spells : Spells Anywhere before left) :
    (binaryTail self left minimum c h).Faithful Anywhere before c := by
  refine faithful_look ?_
  cases known : c.current.bindingPower? with
  | none => exact faithful_emit spells
  | some power =>
    dsimp only
    split
    · exact faithful_emit spells
    · have more : c.current ≠ .endOfInput := by
        intro ended
        simp [ended, SyntaxKind.bindingPower?] at known
      refine faithful_take (Cursor.rest_ne_nil_of_current more) fun l d hd kind => ?_
      refine faithful_capture Anywhere (faithful.apply (.binary (power + 1)) rfl)
        fun ls right => faithful _ _ _ _ (spells_node ?_)
      have plain : l.kind.binaryNode.storesWords = false := by
        unfold SyntaxKind.binaryNode
        split <;> rfl
      have opened : Spells (Inside l.kind.binaryNode Anywhere) (before ++ (c.trivia ++ [l])) _ :=
        spells.anywhere.append (spells_bump (kept_inside plain) kind)
      simpa using opened.append right.anywhere

theorem faithful_binary (faithful : Faithfully self) {minimum : Nat} :
    (binary self minimum c h).Faithful Place [] c :=
  faithful_marked Anywhere (fun _ => faithful_unary faithful) fun _ _ _ _ left =>
    (faithful_binaryTail faithful left).anywhere

theorem faithful_conditional (faithful : Faithfully self) :
    (conditional self c h).Faithful Place [] c := by
  refine faithful_marked Anywhere (fun _ => faithful_binary faithful) ?_
  intro ls out d hd condition
  refine faithful_look ?_
  split
  · refine faithful_wrap condition.anywhere (faithful_bumpThen (kept_inside rfl) fun _ _ => ?_)
    exact faithful_andThen (faithful.apply .assignment rfl)
      (faithful_andThen (faithful_expect (kept_mark rfl)) (faithful.apply .assignment rfl))
  · exact faithful_emit condition.anywhere

theorem faithful_assignment (faithful : Faithfully self) :
    (assignment self c h).Faithful Place [] c := by
  refine faithful_marked Anywhere (fun _ => faithful_conditional faithful) ?_
  intro ls out d hd target
  refine faithful_look ?_
  split
  · exact faithful_wrap target.anywhere
      (faithful_bumpThen (kept_inside rfl) fun _ _ => faithful.apply .assignment rfl)
  · exact faithful_emit target.anywhere

theorem faithful_arrayItems (faithful : Faithfully self) :
    (arrayItems self c h).Faithful Place [] c := by
  refine faithful_look ?_
  generalize at_ : c.current = found
  split
  · exact faithful_skip
  · exact faithful_skip
  · exact faithful_bumpThen (at_ ▸ kept_mark rfl) fun _ _ => faithful.apply .arrayItems rfl
  · exact faithful_progress (faithful_andThen (faithful_assignment faithful) faithful_separator)
      (fun _ _ => faithful.apply .arrayItems rfl) fun _ _ => faithful_skip

theorem faithful_argumentList (faithful : Faithfully self) :
    (argumentList self c h).Faithful Place [] c := by
  refine faithful_look ?_
  generalize c.current = found
  split
  · exact faithful_skip
  · exact faithful_skip
  · refine faithful_andThen (faithful_assignment faithful) (faithful_look ?_)
    split
    · rename_i comma
      exact faithful_bumpThen (comma ▸ kept_mark rfl) fun _ _ => faithful.apply .argumentList rfl
    · exact faithful_skip

theorem faithful_sequenceTail (faithful : Faithfully self) :
    (sequenceTail self c h).Faithful Place [] c := by
  refine faithful_look ?_
  split
  · rename_i comma
    exact faithful_bumpThen (comma ▸ kept_mark rfl) fun _ _ =>
      faithful_andThen (faithful.apply .assignment rfl) (faithful.apply .sequenceTail rfl)
  · exact faithful_skip

theorem faithful_expression (faithful : Faithfully self) :
    (expression self c h).Faithful Place [] c := by
  refine faithful_marked Anywhere (fun _ => faithful_assignment faithful) ?_
  intro ls out d hd first
  refine faithful_look ?_
  split
  · exact faithful_wrap first.anywhere (faithful_sequenceTail faithful)
  · exact faithful_emit first.anywhere

end Grammar

end ScriptLint
