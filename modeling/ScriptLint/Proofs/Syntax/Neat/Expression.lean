import ScriptLint.Syntax.Grammar.Expression
import ScriptLint.Proofs.Syntax.Neatness

/-!
# Expressions are neat

What the productions of the expression grammar hand out is neat if it is so for the parsers that they
may call behind a token (`Neatly`). An expression is read where anything may come; a tail is read
behind an operand, and finds by its first token that it may follow.
-/

namespace ScriptLint

open ScriptLint.Tree (lexemesOf)
open Lexeme (lastKind lastKind_nil lastKind_of_trivia)

/-- Whether a nonterminal stands for at least one token. -/
def Nonterminal.isUnit : Nonterminal → Bool
  | .statements _ | .argumentList | .arrayItems | .objectItems | .sequenceTail => false
  | .suffixes .. | .binaryTail .. => false
  | _ => true

/-- Whether a nonterminal is a list that may be empty. -/
def Nonterminal.isList : Nonterminal → Bool
  | .statements _ | .argumentList | .arrayItems | .objectItems => true
  | _ => false

/-- In front of which tokens a nonterminal is asked for. -/
def Nonterminal.IsAsked : Nonterminal → SyntaxKind → Prop
  | .declaration _, found => found.startsDeclaration = true
  | .arguments, found => found = .leftParen
  | _, _ => True

namespace SyntaxKind

variable {k : SyntaxKind}

theorem isOrdinary_of_prefix (operator : k.isPrefixOperator = true) : k.IsOrdinary := by
  refine ⟨?_, ?_, ?_⟩ <;> rintro rfl <;> cases operator

theorem isOrdinary_of_update (operator : k.isUpdateOperator = true) :
    k.IsOrdinary ∧ k.namesProperty = false := by
  refine ⟨⟨?_, ?_, ?_⟩, ?_⟩
  iterate 3 (rintro rfl; cases operator)
  unfold isUpdateOperator at operator
  split at operator <;> first | rfl | cases operator

theorem isOrdinary_of_assignment (operator : k.isAssignmentOperator = true) :
    k.IsOrdinary ∧ k.namesProperty = false := by
  refine ⟨⟨?_, ?_, ?_⟩, ?_⟩
  iterate 3 (rintro rfl; cases operator)
  unfold isAssignmentOperator at operator
  split at operator <;> first | rfl | cases operator

end SyntaxKind

namespace Grammar

open ScriptLint.Parser

variable {n : Nat} {self : Nonterminal → Parser n} {c : Cursor} {h : c.length < n + 1}
  {before : SyntaxKind}

/-- Whether the parsers of all nonterminals hand out neat trees. -/
structure Neatly (all : Nonterminal → Parser n) : Prop where
  unit : ∀ g : Nonterminal, g.isUnit = true → ∀ {c h before}, g.IsAsked c.current →
    c.Ready before → (all g c h).IsWhole before
  list : ∀ g : Nonterminal, g.isList = true → ∀ {c h before}, c.Ready before →
    (all g c h).IsNeat before
  sequenceTail : ∀ {c h before}, (all .sequenceTail c h).IsNeat before
  suffixes : ∀ {callee calls c h before}, Whole before callee →
    (all (.suffixes callee calls) c h).IsWhole before
  binaryTail : ∀ {left minimum c h before}, Whole before left →
    (all (.binaryTail left minimum) c h).IsWhole before
  settles : ∀ {c h before}, (all .statement c h).Settles before

/-- Behind the token that was read, a nonterminal may be asked for if that token keeps from anything. -/
theorem ready_behind {k : SyntaxKind} (ordinary : k.IsOrdinary) (dot : k ≠ .dot) (c : Cursor) :
    c.Ready k :=
  Cursor.ready_of_ne ordinary.2.1 dot c

theorem isWhole_leaf {kind : SyntaxKind} {n : Nat} {h : c.length < n} (plain : kind.IsPlain)
    (ready : c.Ready before) (ordinary : c.current.IsOrdinary) :
    ((leaf kind : Parser n) c h).IsWhole before :=
  isWhole_node plain ready fun _ _ ready => isWhole_bump ready (by simpa using ordinary)

theorem isWhole_literal {n : Nat} {h : c.length < n} (ready : c.Ready before)
    (more : c.current ≠ .endOfInput) (slash : c.current ≠ .slash) :
    ((leaf .literal : Parser n) c h).IsWhole before := by
  obtain ⟨l, rest, eq⟩ := List.exists_cons_of_ne_nil (Cursor.rest_ne_nil_of_current more)
  have kind : c.current = l.kind := Cursor.current_of_rest eq
  have significant := Cursor.isTrivia_of_rest eq
  rw [leaf, node_bump_of_cons eq (Nat.lt_trans (Cursor.length_behind eq _) h)]
  intro _
  refine Whole.behind ?_ joined_pastTrivia
  refine ⟨⟨fun t mem => ?_, ?_⟩, l, rfl, significant, kind ▸ slash⟩
  · obtain rfl := List.mem_singleton.1 mem
    exact .literal significant
  · rw [Tree.lexemesOf_map_ofLexeme]
    exact ⟨ready.mayFollow eq, trivial⟩

/-- A name, which may be a reserved word, behind anything but a number. -/
theorem isWhole_nameAs {n : Nat} {h : c.length < n} (number : before ≠ .number)
    (names : c.current.namesProperty = true) :
    (node .identifier (bumpAs .ident : Parser n) c h).IsWhole before := by
  have more : c.current ≠ .endOfInput := fun eq => by rw [eq] at names; cases names
  refine isWhole_markedAt (fun h => ?_) fun _ _ _ _ whole => isWhole_emit (whole.node (by decide))
  refine isWhole_bumpAs (by simpa using more) (by decide) (by decide) rfl fun l _ => ?_
  rw [Cursor.trivia_pastTrivia, lastKind_nil]
  have other : lastKind before c.trivia ≠ .number := by
    by_cases none : c.trivia = []
    · rwa [none]
    · exact (lastKind_of_trivia (fun _ => Cursor.isTrivia_of_mem_trivia) none before).1
  exact ⟨fun eq => absurd eq other, fun _ => by simp⟩

theorem isWhole_propertyName {n : Nat} {h : c.length < n} :
    ((propertyName : Parser n) c h).IsWhole .dot := by
  refine isWhole_look ?_
  split
  · exact isWhole_nameAs (by decide) ‹_›
  · exact isWhole_fail

theorem isWhole_argumentsBody (neatly : Neatly self) {h : c.length < n} (ready : c.Ready before) :
    (argumentsBody self c h).IsWhole before :=
  isWhole_andThen_right (neatly.list .argumentList rfl ready) fun _ =>
    isWhole_expect (by decide) (by decide)

/-- Any token but a number or a word may come right behind anything. -/
theorem ready_of_at {found : SyntaxKind} (at_ : c.current = found) (number : found ≠ .number)
    (word : found.namesProperty = false) : c.Ready before :=
  Cursor.ready_of_current (at_ ▸ number) (at_ ▸ word) before

theorem isWhole_arguments (neatly : Neatly self) (paren : c.current = .leftParen) :
    (arguments self c h).IsWhole before := by
  refine isWhole_node (by decide) (ready_of_at paren (by decide) rfl) fun _ _ ready => ?_
  have at_ : c.pastTrivia.current = .leftParen := by simpa using paren
  refine isWhole_bumpThen ready (at_ ▸ by decide) fun d hd => ?_
  exact (isWhole_argumentsBody neatly (at_ ▸ ready_behind (by decide) (by decide) d)).isNeat

theorem isMark_of_kind {l : Lexeme} {found : SyntaxKind} (kind : found = l.kind)
    (number : found ≠ .number) (word : found.namesProperty = false) : l.IsMark :=
  ⟨kind ▸ number, kind ▸ word⟩

theorem whole_cons {l : Lexeme} {ts : List Tree} (mark : l.IsMark) (whole : Whole l.kind ts) :
    Whole before (.ofLexeme l :: ts) := by
  have token : Joined before [.ofLexeme l] := joined_token mark.1 (mark.mayFollow before)
  exact Whole.behind (by simpa using whole) token

/-- Trees with a token behind them and what follows it. -/
theorem whole_extend {l : Lexeme} {first ts : List Tree} (whole : Whole before first)
    (mark : l.IsMark) (rest : Whole l.kind ts) :
    Whole before (first ++ c.trivia.map Tree.ofLexeme ++ .ofLexeme l :: ts) :=
  (whole_cons mark rest).behind (whole.toJoined.append joined_pastTrivia)

theorem isWhole_suffixes (neatly : Neatly self) {callee : List Tree} {calls : Bool}
    (whole : Whole before callee) : (suffixes self callee calls c h).IsWhole before := by
  refine isWhole_look ?_
  generalize found : c.current = kind
  split
  · refine isWhole_take (by simp [found]) fun l rest d hd eq => ?_
    have kind := Cursor.current_of_rest eq
    rw [found] at kind
    refine isWhole_capture isWhole_propertyName fun name _ _ wholeName => neatly.suffixes ?_
    exact (whole_extend whole (isMark_of_kind kind (by decide) rfl) (kind ▸ wholeName)).node
      (by decide)
  · refine isWhole_take (by simp [found]) fun l rest d hd eq => ?_
    have kind := Cursor.current_of_rest eq
    rw [found] at kind
    have ready : d.Ready .leftBracket := ready_behind (by decide) (by decide) d
    refine isWhole_capture (isWhole_andThen (neatly.unit .expression rfl trivial ready) fun _ =>
      (isWhole_expect (by decide) (by decide)).isNeat) fun index _ _ wholeIndex =>
        neatly.suffixes ?_
    exact (whole_extend whole (isMark_of_kind kind (by decide) rfl) (kind ▸ wholeIndex)).node
      (by decide)
  · refine isWhole_take (by simp [found]) fun l rest d hd eq => neatly.suffixes ?_
    have kind := Cursor.current_of_rest eq
    rw [found] at kind
    obtain ⟨kind_, text⟩ := l
    obtain rfl : SyntaxKind.template = kind_ := kind
    have token : Whole (lastKind before (lexemesOf (callee ++ c.trivia.map Tree.ofLexeme)))
        [.node .templateLiteral [.token .template text]] :=
      Whole.node ⟨joined_token (by decide) ((isMark_of_kind rfl (by simp) rfl).mayFollow _),
        ⟨.template, text⟩, rfl, rfl, by simp⟩ (by decide)
    have all := token.behind (whole.toJoined.append joined_pastTrivia)
    refine ⟨⟨fun t mem => ?_, by simpa using all.seamed⟩, by simpa using all.ends⟩
    obtain rfl := List.mem_singleton.1 mem
    exact .tagged whole.formed whole.ends fun _ => Cursor.isTrivia_of_mem_trivia
  · split
    · refine isWhole_take (by simp [found]) fun l rest d hd eq => ?_
      have kind := Cursor.current_of_rest eq
      rw [found] at kind
      have ready : d.Ready .leftParen := ready_behind (by decide) (by decide) d
      refine isWhole_capture (isWhole_argumentsBody neatly ready) fun inner _ _ wholeInner =>
        neatly.suffixes ?_
      have list : Whole (lastKind before (lexemesOf (callee ++ c.trivia.map Tree.ofLexeme)))
          [.node .arguments (.ofLexeme l :: inner)] :=
        (whole_cons (isMark_of_kind kind (by decide) rfl) (kind ▸ wholeInner)).node (by decide)
      exact (list.behind (whole.toJoined.append joined_pastTrivia)).node (by decide)
    · exact isWhole_emit whole
  · exact isWhole_emit whole

theorem isWhole_newExpression (neatly : Neatly self) (ready : c.Ready before)
    (new : c.current = .newKeyword) : (newExpression self c h).IsWhole before := by
  refine isWhole_node (by decide) ready fun _ _ ready => ?_
  have at_ : c.pastTrivia.current = .newKeyword := by simpa using new
  refine isWhole_bumpThen ready (at_ ▸ by decide) fun d hd => ?_
  rw [at_]
  refine isNeat_andThen (neatly.unit .newTarget rfl trivial
    (ready_behind (by decide) (by decide) d)).isNeat fun _ => isNeat_look ?_
  split
  · rename_i paren
    exact (neatly.unit .arguments rfl paren (ready_of_at paren (by decide) rfl)).isNeat
  · exact isNeat_skip

/-- Where a word is ready to be read and no trivia is before it, no number is right before it. -/
theorem ne_number_of_ready (ready : c.pastTrivia.Ready before)
    (names : c.current.namesProperty = true) : before ≠ .number := by
  have more : c.current ≠ .endOfInput := fun eq => by rw [eq] at names; cases names
  obtain ⟨l, rest, eq⟩ := List.exists_cons_of_ne_nil (Cursor.rest_ne_nil_of_current more)
  rcases ready l (by rw [eq]; rfl) with mark | other
  · rw [Cursor.current_of_rest eq, mark.2] at names
    cases names
  · exact other.1

theorem isWhole_property (neatly : Neatly self) (ready : c.Ready before) :
    (property self c h).IsWhole before := by
  refine isWhole_node (by decide) ready fun k _ ready =>
    isWhole_andThen (isWhole_look ?_) fun _ => isNeat_look ?_
  · rw [Cursor.current_pastTrivia]
    split
    · rename_i literal
      refine isWhole_literal ready ?_ ?_ <;> rw [Cursor.current_pastTrivia] <;>
        rcases literal with at_ | at_ <;> simp [at_]
    · split
      · rename_i names
        exact isWhole_nameAs (ne_number_of_ready ready names) (by simpa using names)
      · exact isWhole_fail
  · split
    · rename_i colon
      refine (isWhole_bumpThen (ready_of_at colon (by decide) rfl) (colon ▸ by decide)
        fun d hd => ?_).isNeat
      rw [colon]
      exact (neatly.unit .assignment rfl trivial (ready_behind (by decide) (by decide) d)).isNeat
    · exact isNeat_skip

theorem isNeat_separator {close : SyntaxKind} {n : Nat} {h : c.length < n} :
    ((separator close : Parser n) c h).IsNeat before := by
  refine isNeat_look ?_
  split
  · exact isNeat_skip
  · exact (isWhole_expect (by decide) (by decide)).isNeat

/-- Behind a separator the list goes on or is closed. -/
theorem settles_separator {close : SyntaxKind} {n : Nat} {h : c.length < n}
    (number : close ≠ .number) (word : close.namesProperty = false) :
    ((separator close : Parser n) c h).Settles before := by
  refine settles_look ?_
  split
  · rename_i closed
    exact fun _ => ready_of_at closed number word
  · exact settles_expect (by decide) (by decide)

/-- An item of a list is whole with its separator, and the list goes on behind it. -/
theorem isNeat_items {p : Parser (n + 1)} {q : Parser n} {close : SyntaxKind}
    (item : (p c h).IsWhole before) (number : close ≠ .number) (word : close.namesProperty = false)
    (again : ∀ k d hd, d.Ready k → (q d hd).IsNeat k) :
    (progress (andThen p (separator close)) q skip c h).IsNeat before := by
  have read : (andThen p (separator close) c h).IsWhole before :=
    isWhole_andThen item fun _ => isNeat_separator
  refine isNeat_progress read.isNeat (fun errors hd => again _ _ hd ?_) isNeat_skip
  exact settles_andThen (fun _ => settles_separator number word) errors

theorem isNeat_objectItems (neatly : Neatly self) (ready : c.Ready before) :
    (objectItems self c h).IsNeat before := by
  refine isNeat_look ?_
  generalize c.current = found
  split
  · exact isNeat_skip
  · exact isNeat_skip
  · exact isNeat_items (isWhole_property neatly ready) (by decide) rfl fun _ _ _ ready =>
      neatly.list .objectItems rfl ready

theorem isWhole_bracketed {g : Nonterminal} {kind close : SyntaxKind} (plain : kind.IsPlain)
    (ready : c.Ready before) (ordinary : c.current.IsOrdinary) (dot : c.current ≠ .dot)
    (ends : close.IsOrdinary) (mark : close.namesProperty = false)
    (inner : ∀ k d hd, d.Ready k → (self g d hd).IsNeat k) :
    (node kind (bumpThen (andThen (self g) (expect close))) c h).IsWhole before := by
  refine isWhole_node plain ready fun _ _ ready => ?_
  refine isWhole_bumpThen ready (by simpa using ordinary) fun d hd => ?_
  rw [Cursor.current_pastTrivia]
  exact isNeat_andThen (inner _ _ _ (ready_behind ordinary dot d)) fun _ =>
    (isWhole_expect ends mark).isNeat

theorem isWhole_primary (neatly : Neatly self) (ready : c.Ready before) :
    (primary self c h).IsWhole before := by
  refine isWhole_look ?_
  generalize at_ : c.current = found
  split
  · exact isWhole_leaf (by decide) ready (at_ ▸ by decide)
  iterate 5 exact isWhole_literal ready (by simp [at_]) (by simp [at_])
  · exact isWhole_leaf (by decide) ready (at_ ▸ by decide)
  · exact isWhole_leaf (by decide) ready (at_ ▸ by decide)
  · exact isWhole_bracketed (by decide) ready (at_ ▸ by decide) (at_ ▸ by decide) (by decide) rfl
      fun _ _ _ ready => (neatly.unit .expression rfl trivial ready).isNeat
  · exact isWhole_bracketed (by decide) ready (at_ ▸ by decide) (at_ ▸ by decide) (by decide) rfl
      fun _ _ _ ready => neatly.list .arrayItems rfl ready
  · exact isWhole_bracketed (by decide) ready (at_ ▸ by decide) (at_ ▸ by decide) (by decide) rfl
      fun _ _ _ ready => neatly.list .objectItems rfl ready
  · split
    · exact isWhole_fail
    · exact isWhole_reject

theorem isWhole_callee (neatly : Neatly self) (ready : c.Ready before) :
    (callee self c h).IsWhole before := by
  refine isWhole_look ?_
  split
  · exact isWhole_newExpression neatly ready ‹_›
  · exact isWhole_primary neatly ready

theorem isWhole_newTarget (neatly : Neatly self) (ready : c.Ready before) :
    (newTarget self c h).IsWhole before :=
  isWhole_marked ready (fun _ _ ready => isWhole_callee neatly ready) fun _ _ _ _ target =>
    isWhole_suffixes neatly target

theorem isWhole_call (neatly : Neatly self) (ready : c.Ready before) :
    (call self c h).IsWhole before :=
  isWhole_marked ready (fun _ _ ready => isWhole_callee neatly ready) fun _ _ _ _ target =>
    isWhole_suffixes neatly target

theorem isWhole_operand (neatly : Neatly self) {kind : SyntaxKind} (plain : kind.IsPlain)
    (ready : c.Ready before) (ordinary : c.current.IsOrdinary) (dot : c.current ≠ .dot) :
    (node kind (bumpThen (self .unary)) c h).IsWhole before := by
  refine isWhole_node plain ready fun _ _ ready => ?_
  refine isWhole_bumpThen ready (by simpa using ordinary) fun d hd => ?_
  rw [Cursor.current_pastTrivia]
  exact (neatly.unit .unary rfl trivial (ready_behind ordinary dot d)).isNeat

theorem isWhole_unary (neatly : Neatly self) (ready : c.Ready before) :
    (unary self c h).IsWhole before := by
  refine isWhole_look ?_
  split
  · rename_i operator
    refine isWhole_operand neatly (by decide) ready (SyntaxKind.isOrdinary_of_prefix operator) ?_
    intro dot
    rw [dot] at operator
    cases operator
  split
  · rename_i operator
    refine isWhole_operand neatly (by decide) ready
      (SyntaxKind.isOrdinary_of_update operator).1 ?_
    intro dot
    rw [dot] at operator
    cases operator
  · refine isWhole_marked ready (fun _ _ ready => isWhole_call neatly ready) ?_
    intro k operand d hd whole
    refine isWhole_look ?_
    split
    · rename_i operator
      have update := SyntaxKind.isOrdinary_of_update (Bool.and_eq_true_iff.1 operator).1
      have ready := Cursor.ready_of_current update.1.2.1 update.2 (lastKind k (lexemesOf operand))
      exact isWhole_wrap (by decide) whole (isWhole_bump ready update.1).isNeat
    · exact isWhole_emit whole

theorem isMark_of_bindingPower {k : SyntaxKind} {power : Nat} (known : k.bindingPower? = some power) :
    k ≠ .number ∧ k.namesProperty = false ∧ k ≠ .dot ∧ k ≠ .endOfInput := by
  unfold SyntaxKind.bindingPower? at known
  split at known <;> first | exact ⟨by decide, rfl, by decide, by decide⟩ | cases known

theorem isWhole_binaryTail (neatly : Neatly self) {left : List Tree} {minimum : Nat}
    (whole : Whole before left) : (binaryTail self left minimum c h).IsWhole before := by
  refine isWhole_look ?_
  cases known : c.current.bindingPower? with
  | none => exact isWhole_emit whole
  | some power =>
    obtain ⟨number, word, dot, more⟩ := isMark_of_bindingPower known
    dsimp only
    split
    · exact isWhole_emit whole
    · refine isWhole_take more fun l rest d hd eq => ?_
      have kind := Cursor.current_of_rest eq
      have ready : d.Ready l.kind := Cursor.ready_of_ne (kind ▸ number) (kind ▸ dot) d
      refine isWhole_capture (neatly.unit (.binary (power + 1)) rfl trivial ready)
        fun right _ _ wholeRight => neatly.binaryTail ?_
      have plain : l.kind.binaryNode.IsPlain := by
        unfold SyntaxKind.binaryNode
        split <;> decide
      exact (whole_extend whole (isMark_of_kind kind number word) wholeRight).node plain

theorem isWhole_binary (neatly : Neatly self) {minimum : Nat} (ready : c.Ready before) :
    (binary self minimum c h).IsWhole before :=
  isWhole_marked ready (fun _ _ ready => isWhole_unary neatly ready) fun _ _ _ _ left =>
    isWhole_binaryTail neatly left

theorem isWhole_conditional (neatly : Neatly self) (ready : c.Ready before) :
    (conditional self c h).IsWhole before := by
  refine isWhole_marked ready (fun _ _ ready => isWhole_binary neatly ready) ?_
  intro k condition d hd whole
  refine isWhole_look ?_
  split
  · rename_i question
    refine isWhole_wrap (by decide) whole (isWhole_bumpThen
      (ready_of_at question (by decide) rfl) (question ▸ by decide) fun e he => ?_).isNeat
    rw [question]
    refine isNeat_andThen (neatly.unit .assignment rfl trivial
      (ready_behind (by decide) (by decide) e)).isNeat fun _ => ?_
    refine isNeat_andThen (isWhole_expect (by decide) (by decide)).isNeat fun colon => ?_
    exact (neatly.unit .assignment rfl trivial
      (settles_expect (by decide) (by decide) colon)).isNeat
  · exact isWhole_emit whole

theorem isWhole_assignment (neatly : Neatly self) (ready : c.Ready before) :
    (assignment self c h).IsWhole before := by
  refine isWhole_marked ready (fun _ _ ready => isWhole_conditional neatly ready) ?_
  intro k target d hd whole
  refine isWhole_look ?_
  split
  · rename_i operator
    obtain ⟨ordinary, word⟩ := SyntaxKind.isOrdinary_of_assignment operator
    have dot : d.current ≠ .dot := by
      intro dot
      rw [dot] at operator
      cases operator
    refine isWhole_wrap (by decide) whole (isWhole_bumpThen
      (Cursor.ready_of_current ordinary.2.1 word _) ordinary fun e he => ?_).isNeat
    exact (neatly.unit .assignment rfl trivial (ready_behind ordinary dot e)).isNeat
  · exact isWhole_emit whole

theorem isNeat_arrayItems (neatly : Neatly self) (ready : c.Ready before) :
    (arrayItems self c h).IsNeat before := by
  refine isNeat_look ?_
  generalize at_ : c.current = found
  split
  · exact isNeat_skip
  · exact isNeat_skip
  · refine (isWhole_bumpThen ready (at_ ▸ by decide) fun d hd => ?_).isNeat
    rw [at_]
    exact neatly.list .arrayItems rfl (ready_behind (by decide) (by decide) d)
  · exact isNeat_items (isWhole_assignment neatly ready) (by decide) rfl fun _ _ _ ready =>
      neatly.list .arrayItems rfl ready

/-- What may follow an item behind a comma, if a comma is next. -/
theorem isNeat_behindComma {p : Parser n} (again : ∀ d hd, (p d hd).IsNeat .comma) :
    (look (fun c => if c.current = .comma then bumpThen p else skip) c h).IsNeat before := by
  refine isNeat_look ?_
  split
  · rename_i comma
    refine (isWhole_bumpThen (ready_of_at comma (by decide) rfl) (comma ▸ by decide)
      fun d hd => ?_).isNeat
    rw [comma]
    exact again d hd
  · exact isNeat_skip

theorem isNeat_argumentList (neatly : Neatly self) (ready : c.Ready before) :
    (argumentList self c h).IsNeat before := by
  refine isNeat_look ?_
  generalize c.current = found
  split
  · exact isNeat_skip
  · exact isNeat_skip
  · exact isNeat_andThen (isWhole_assignment neatly ready).isNeat fun _ =>
      isNeat_behindComma fun d hd =>
        neatly.list .argumentList rfl (ready_behind (by decide) (by decide) d)

theorem isNeat_sequenceTail (neatly : Neatly self) : (sequenceTail self c h).IsNeat before :=
  isNeat_behindComma fun d hd =>
    isNeat_andThen (neatly.unit .assignment rfl trivial
      (ready_behind (by decide) (by decide) d)).isNeat fun _ => neatly.sequenceTail

theorem isWhole_expression (neatly : Neatly self) (ready : c.Ready before) :
    (expression self c h).IsWhole before := by
  refine isWhole_marked ready (fun _ _ ready => isWhole_assignment neatly ready) ?_
  intro k first d hd whole
  refine isWhole_look ?_
  split
  · exact isWhole_wrap (by decide) whole (isNeat_sequenceTail neatly)
  · exact isWhole_emit whole

end Grammar

end ScriptLint
