import ScriptLint.Proofs.Syntax.Derivation
import ScriptLint.Proofs.Syntax.Neat.Expression
import ScriptLint.Proofs.Syntax.Spelling.Expression

/-!
# Expressions are derived

What a production of the expression grammar hands out without errors derives the content of its
nonterminal if it is so for the parsers that it calls behind a token (`Yielding`). An operand that is
read before its operator becomes the first child of a node whose content starts with its level.
-/

namespace ScriptLint

open Content
open ScriptLint.Tree (Closed)

/-- What a nonterminal hands out, with the trees that it was handed. -/
def Nonterminal.content : Nonterminal → Content
  | .statement => oneOf Content.statements
  | .statements _ => many (oneOf Content.statements)
  | .declaration _ => only .variableDeclaration
  | .declarators => separated (only .variableDeclarator)
  | .expression => oneOf expressions
  | .sequenceTail => many (inTurn [only .comma, oneOf assignments])
  | .assignment => oneOf assignments
  | .binary _ => oneOf binaries
  | .binaryTail _ _ => oneOf binaries
  | .unary => oneOf unaries
  | .suffixes _ calls => oneOf (callees calls)
  | .newTarget => oneOf (callees false)
  | .arguments => only .arguments
  | .argumentList => listOf (oneOf assignments)
  | .arrayItems => listOf (maybe (oneOf assignments))
  | .objectItems => listOf (only .property)

namespace SyntaxKind

variable {k : SyntaxKind}

theorem mem_prefixes (operator : k.isPrefixOperator = true) : k ∈ prefixes := by
  unfold isPrefixOperator at operator
  split at operator <;> first | decide | cases operator

theorem mem_updates (operator : k.isUpdateOperator = true) : k ∈ updates := by
  unfold isUpdateOperator at operator
  split at operator <;> first | decide | cases operator

theorem mem_assigns (operator : k.isAssignmentOperator = true) : k ∈ assigns := by
  unfold isAssignmentOperator at operator
  split at operator <;> first | decide | cases operator

/-- A binary operator with operands around it makes up the content of its node. -/
theorem le_content_binaryNode {power : Nat} (known : k.bindingPower? = some power) :
    k.isTerminal = true ∧ k.binaryNode ∈ binaries ∧ k.binaryNode.isInner = true ∧
      (inTurn [oneOf binaries, only k, oneOf binaries]).matches' ≤
        k.binaryNode.content.matches' := by
  have logical {k : SyntaxKind} (among : k ∈ connectives) :
      (inTurn [oneOf binaries, only k, oneOf binaries]).matches' ≤
        SyntaxKind.logicalExpression.content.matches' :=
    mul_le_mul' le_rfl (mul_le_mul' (oneOf_le (by simpa using among)) le_rfl)
  have plain {k : SyntaxKind} (among : k ∈ operators) :
      (inTurn [oneOf binaries, only k, oneOf binaries]).matches' ≤
        SyntaxKind.binaryExpression.content.matches' :=
    mul_le_mul' le_rfl (mul_le_mul' (oneOf_le (by simpa using among)) le_rfl)
  unfold bindingPower? at known
  split at known
  iterate 3 exact ⟨rfl, by decide, rfl, logical (by decide)⟩
  iterate 13 exact ⟨rfl, by decide, rfl, plain (by decide)⟩
  cases known

end SyntaxKind

namespace Grammar

open ScriptLint.Parser

variable {n : Nat} {self : Nonterminal → Parser n} {c : Cursor} {h : c.length < n + 1}

/-- Whether the parsers of all nonterminals yield the contents of these. -/
structure Yielding (all : Nonterminal → Parser n) : Prop where
  yields : ∀ g {c h}, (g.isTail = true → Derives g.content g.held) → g.IsAsked c.current →
    (all g c h).Yields g.content
  array : ∀ {c h}, c.current = .rightBracket → (all .arrayItems c h).out = []
  object : ∀ {c h}, c.current = .rightBrace → (all .objectItems c h).out = []

/-- Most nonterminals may be asked for anywhere. -/
theorem Yielding.any (yielding : Yielding self) (g : Nonterminal) {h : c.length < n}
    (plain : g.isTail = false) (asked : g.IsAsked c.current) : (self g c h).Yields g.content :=
  yielding.yields g (fun tail => by rw [plain] at tail; cases tail) asked

theorem yields_leaf {kind : SyntaxKind} {ks : List SyntaxKind} {n : Nat} {h : c.length < n}
    (inner : kind.isInner = true) (le : (oneOf ks).matches' ≤ kind.content.matches')
    (at_ : c.current ∈ ks) (terminal : ks.all SyntaxKind.isTerminal) :
    ((leaf kind : Parser n) c h).Yields (only kind) :=
  yields_node inner le fun _ => yields_bump (by simpa using at_) terminal

theorem yields_nameAs {n : Nat} {h : c.length < n} (names : c.current.namesProperty = true) :
    (node .identifier (bumpAs .ident : Parser n) c h).Yields (only .identifier) := by
  have more : c.current ≠ .endOfInput := by
    intro ended
    rw [ended] at names
    cases names
  exact yields_node rfl le_rfl fun _ => yields_bumpAs (by simpa using more) rfl rfl

theorem yields_propertyName {n : Nat} {h : c.length < n} :
    ((propertyName : Parser n) c h).Yields (only .identifier) := by
  refine yields_look ?_
  split
  · exact yields_nameAs ‹_›
  · exact yields_fail

theorem yields_argumentsBody (yielding : Yielding self) {h : c.length < n} :
    (argumentsBody self c h).Yields (inTurn [listOf (oneOf assignments), only .rightParen]) :=
  yields_andThen (yielding.any .argumentList rfl trivial) (yields_expect rfl)

theorem yields_arguments (yielding : Yielding self) (paren : c.current = .leftParen) :
    (arguments self c h).Yields (only .arguments) :=
  yields_node rfl le_rfl fun _ => yields_bumpThen (List.mem_singleton.2 (by simpa using paren)) rfl
    fun _ _ => yields_argumentsBody yielding

/-- Trees with a token behind them and what follows it. -/
theorem derives_extend {e f : Content} {k : SyntaxKind} {l : Lexeme} {first ts : List Tree}
    (derives : Derives e first) (kind : k = l.kind) (terminal : k.isTerminal = true)
    (plain : l.isTrivia = false) (rest : Derives f ts) :
    Derives (inTurn [e, only k, f]) (first ++ c.trivia.map Tree.ofLexeme ++ .ofLexeme l :: ts) := by
  have next : Derives (only k) (c.trivia.map Tree.ofLexeme ++ [.ofLexeme l]) :=
    (derives_ofLexeme kind terminal plain).behind nil_notMem_oneOf
      fun _ => Cursor.isTrivia_of_mem_trivia
  have all := derives.append (next.append rest)
  rwa [List.append_assoc, ← List.append_assoc first, List.singleton_append] at all

theorem callees_subset (calls : Bool) : callees calls ⊆ callees true := by
  cases calls <;> decide

theorem yields_suffixes (yielding : Yielding self) {callee : List Tree} {calls : Bool}
    (derives : Derives (oneOf (callees calls)) callee) :
    (suffixes self callee calls c h).Yields (oneOf (callees calls)) := by
  have operand := derives.widen (callees_subset calls)
  have again {d : Cursor} {hd : d.length < n} {kind : SyntaxKind} {ts : List Tree}
      (among : kind ∈ callees calls) (inner : kind.isInner = true)
      (content : Derives kind.content ts) :
      (self (.suffixes [.node kind ts] calls) d hd).Yields (oneOf (callees calls)) :=
    yielding.yields (.suffixes [.node kind ts] calls) (fun _ => (content.node inner).among among)
      trivial
  refine yields_look ?_
  generalize found : c.current = kind
  split
  · refine yields_take (by simp [found]) fun l d hd kind plain => ?_
    refine yields_capture yields_propertyName fun derivesName => ?_
    refine again (by cases calls <;> decide) rfl ?_
    have all := derives_extend (c := c) operand (found ▸ kind) rfl plain derivesName
    exact all.mono (mul_le_mul' le_rfl fun _ => .inl)
  · refine yields_take (by simp [found]) fun l d hd kind plain => ?_
    refine yields_capture (yields_andThen (yielding.any .expression rfl trivial)
      (yields_expect rfl)) fun derivesIndex => ?_
    refine again (by cases calls <;> decide) rfl ?_
    have all := derives_extend (c := c) operand (found ▸ kind) rfl plain derivesIndex
    exact all.mono (mul_le_mul' le_rfl fun _ => .inr)
  · refine yields_take (by simp [found]) fun l d hd kind plain => ?_
    refine again (by cases calls <;> decide) rfl ?_
    have template : Derives (only .templateLiteral) [.node .templateLiteral [.ofLexeme l]] :=
      Derives.node rfl (derives_ofLexeme (found ▸ kind) rfl plain)
    have all := operand.append
      (template.behind nil_notMem_oneOf fun _ => Cursor.isTrivia_of_mem_trivia (c := c))
    rwa [← List.append_assoc] at all
  · split
    · rename_i yes
      obtain rfl : calls = true := yes
      refine yields_take (by simp [found]) fun l d hd kind plain => ?_
      refine yields_capture (yields_argumentsBody yielding) fun derivesInside => ?_
      refine again (by decide) rfl ?_
      have list : Derives (only .arguments)
          [.node .arguments (.ofLexeme l :: (argumentsBody self d hd).out)] :=
        Derives.node rfl ((derives_ofLexeme (found ▸ kind) rfl plain).append derivesInside)
      have all := operand.append
        (list.behind nil_notMem_oneOf fun _ => Cursor.isTrivia_of_mem_trivia (c := c))
      rwa [← List.append_assoc] at all
    · exact yields_emit derives
  · exact yields_emit derives

theorem yields_newExpression (yielding : Yielding self) (new : c.current = .newKeyword) :
    (newExpression self c h).Yields (only .newExpression) := by
  refine yields_node rfl le_rfl fun _ => yields_bumpThen (List.mem_singleton.2 (by simpa using new))
    rfl fun _ _ => yields_andThen (yielding.any .newTarget rfl trivial) (yields_look ?_)
  split
  · rename_i paren
    exact (yielding.any .arguments rfl paren).maybe
  · exact yields_skip nil_mem_maybe

theorem yields_property (yielding : Yielding self) :
    (property self c h).Yields (only .property) := by
  refine yields_node rfl le_rfl fun _ => yields_andThen (yields_look ?_) (yields_look ?_)
  · split
    · rename_i literal
      have among : ([.string, .number] : List SyntaxKind) ⊆ literals := by decide
      exact (yields_leaf rfl (oneOf_le among) (by simpa using literal) rfl).among (by decide)
    · split
      · exact (yields_nameAs ‹_›).among (by decide)
      · exact yields_fail
  · split
    · rename_i colon
      exact (yields_bumpThen (List.mem_singleton.2 colon) rfl fun _ _ =>
        yielding.any .assignment rfl trivial).maybe
    · exact yields_skip nil_mem_maybe

/-- An item with its separator goes in front of a list that ends where it is closed. -/
theorem yields_items {p : Parser (n + 1)} {q : Parser n} {close : SyntaxKind} {item e : Content}
    (first : (p c h).Yields item) (le : item.matches' ≤ e.matches')
    (again : ∀ d hd, (q d hd).Yields (listOf e))
    (closed : ∀ d hd, d.current = close → (q d hd).out = []) :
    (progress (andThen p (separator close)) q skip c h).Yields (listOf e) := by
  have list : (p c h).Yields e := first.mono le
  by_cases at_ : (p c h).next.current = close
  · have read : (andThen p (separator close) c h).next = (p c h).next ∧
        (andThen p (separator close) c h).out = (p c h).out := by
      simp [andThen, separator, look, at_, skip, emit]
    have alone : (progress (andThen p (separator close)) q skip c h).out = (p c h).out := by
      simp only [progress]
      split
      · simp [read.2, closed _ _ (read.1 ▸ at_)]
      · simp [read.2, skip, emit]
    intro errors
    obtain ⟨one, -⟩ := errors_andThen.1 (errors_progress errors)
    rw [alone]
    exact (list one).mono le_listOf
  · have comma : (separator close (p c h).next (p c h).bound).Yields (only .comma) := by
      refine yields_look ?_
      rw [if_neg at_]
      exact yields_expect rfl
    exact (yields_progress (yields_andThen list comma) (fun _ => again _ _)
      (yields_skip nil_mem_listOf)).mono mul_listOf_le

theorem yields_objectItems (yielding : Yielding self) :
    (objectItems self c h).Yields (listOf (only .property)) := by
  refine yields_look ?_
  generalize c.current = found
  split
  · exact yields_skip nil_mem_listOf
  · exact yields_skip nil_mem_listOf
  · exact yields_items (yields_property yielding) le_rfl
      (fun _ _ => yielding.any .objectItems rfl trivial) fun _ _ => yielding.object

theorem yields_bracketed {g : Nonterminal} {kind open_ close : SyntaxKind}
    (yielding : Yielding self) (inner : kind.isInner = true)
    (le : (inTurn [only open_, g.content, only close]).matches' ≤ kind.content.matches')
    (at_ : c.current = open_) (terminal : open_.isTerminal = true ∧ close.isTerminal = true)
    (plain : g.isTail = false) (asked : ∀ k, g.IsAsked k) :
    (node kind (bumpThen (andThen (self g) (expect close))) c h).Yields (only kind) :=
  yields_node inner le fun _ => yields_bumpThen (List.mem_singleton.2 (by simpa using at_))
    (by simp [terminal.1]) fun _ _ =>
      yields_andThen (yielding.any g plain (asked _)) (yields_expect terminal.2)

theorem yields_literal {n : Nat} {h : c.length < n} (at_ : c.current ∈ literals) :
    ((leaf .literal : Parser n) c h).Yields (oneOf primaries) :=
  (yields_leaf rfl le_rfl at_ rfl).among (by decide)

theorem yields_primary (yielding : Yielding self) :
    (primary self c h).Yields (oneOf primaries) := by
  refine yields_look ?_
  generalize at_ : c.current = found
  split
  · exact (yields_leaf rfl le_rfl (List.mem_singleton.2 at_) rfl).among (by decide)
  iterate 5 exact yields_literal (at_ ▸ by decide)
  · exact (yields_leaf rfl le_rfl (List.mem_singleton.2 at_) rfl).among (by decide)
  · exact (yields_leaf rfl le_rfl (List.mem_singleton.2 at_) rfl).among (by decide)
  · exact (yields_bracketed (g := .expression) yielding rfl le_rfl at_ ⟨rfl, rfl⟩ rfl
      fun _ => trivial).among (by decide)
  · exact (yields_bracketed (g := .arrayItems) yielding rfl le_rfl at_ ⟨rfl, rfl⟩ rfl
      fun _ => trivial).among (by decide)
  · exact (yields_bracketed (g := .objectItems) yielding rfl le_rfl at_ ⟨rfl, rfl⟩ rfl
      fun _ => trivial).among (by decide)
  · split
    · exact yields_fail
    · exact yields_reject

theorem yields_callee (yielding : Yielding self) (calls : Bool) :
    (callee self c h).Yields (oneOf (callees calls)) := by
  refine yields_look ?_
  split
  · exact (yields_newExpression yielding ‹_›).among (by cases calls <;> decide)
  · exact (yields_primary yielding).widen (by cases calls <;> decide)

theorem yields_newTarget (yielding : Yielding self) :
    (newTarget self c h).Yields (oneOf (callees false)) :=
  yields_marked nil_notMem_oneOf (fun _ => yields_callee yielding false) fun _ _ _ derives =>
    yields_suffixes yielding derives

theorem yields_call (yielding : Yielding self) :
    (call self c h).Yields (oneOf (callees true)) :=
  yields_marked nil_notMem_oneOf (fun _ => yields_callee yielding true) fun _ _ _ derives =>
    yields_suffixes yielding derives

theorem yields_unary (yielding : Yielding self) : (unary self c h).Yields (oneOf unaries) := by
  refine yields_look ?_
  split
  · rename_i operator
    have among := SyntaxKind.mem_prefixes operator
    exact (yields_node rfl le_rfl fun _ => yields_bumpThen (by simpa using among) rfl fun _ _ =>
      yielding.any .unary rfl trivial).among (by decide)
  split
  · rename_i operator
    have among := SyntaxKind.mem_updates operator
    have le : (inTurn [oneOf updates, oneOf unaries]).matches' ≤
        SyntaxKind.updateExpression.content.matches' := fun _ => .inl
    exact (yields_node rfl le fun _ => yields_bumpThen (by simpa using among) rfl fun _ _ =>
      yielding.any .unary rfl trivial).among (by decide)
  · refine yields_marked nil_notMem_oneOf (fun _ => yields_call yielding) ?_
    intro operand d hd derives
    refine yields_look ?_
    split
    · rename_i operator
      have among := SyntaxKind.mem_updates (Bool.and_eq_true_iff.1 operator).1
      have le : (inTurn [oneOf (callees true), oneOf updates]).matches' ≤
          SyntaxKind.updateExpression.content.matches' := fun _ => .inr
      exact (yields_wrap rfl le derives (yields_bump among rfl)).among (by decide)
    · exact yields_emit (derives.widen (by decide))

theorem yields_binaryTail (yielding : Yielding self) {left : List Tree} {minimum : Nat}
    (derives : Derives (oneOf binaries) left) :
    (binaryTail self left minimum c h).Yields (oneOf binaries) := by
  refine yields_look ?_
  cases known : c.current.bindingPower? with
  | none => exact yields_emit derives
  | some power =>
    obtain ⟨-, -, -, more⟩ := isMark_of_bindingPower known
    dsimp only
    split
    · exact yields_emit derives
    · refine yields_take more fun l d hd kind plain => ?_
      refine yields_capture (yielding.any (.binary (power + 1)) rfl trivial) ?_
      intro derivesRight
      obtain ⟨terminal, among, inner, le⟩ := SyntaxKind.le_content_binaryNode (kind ▸ known)
      have all := derives_extend (c := c) derives rfl terminal plain derivesRight
      exact yielding.yields (.binaryTail _ minimum) (fun _ => ((all.mono le).node inner).among among)
        trivial

theorem yields_binary (yielding : Yielding self) {minimum : Nat} :
    (binary self minimum c h).Yields (oneOf binaries) := by
  refine yields_marked nil_notMem_oneOf (fun _ => yields_unary yielding) ?_
  intro left d hd derives
  exact yields_binaryTail yielding (derives.widen (by decide))

theorem yields_conditional (yielding : Yielding self) :
    (conditional self c h).Yields (oneOf conditionals) := by
  refine yields_marked nil_notMem_oneOf (fun _ => yields_binary yielding) ?_
  intro condition d hd derives
  refine yields_look ?_
  split
  · rename_i question
    refine (yields_wrap rfl le_rfl derives (yields_bumpThen (List.mem_singleton.2 question) rfl
      fun _ _ => ?_)).among (by decide)
    exact yields_andThen (yielding.any .assignment rfl trivial)
      (yields_andThen (yields_expect rfl) (yielding.any .assignment rfl trivial))
  · exact yields_emit (derives.widen (by decide))

theorem yields_assignment (yielding : Yielding self) :
    (assignment self c h).Yields (oneOf assignments) := by
  refine yields_marked nil_notMem_oneOf (fun _ => yields_conditional yielding) ?_
  intro target d hd derives
  refine yields_look ?_
  split
  · rename_i operator
    exact (yields_wrap rfl le_rfl derives (yields_bumpThen (SyntaxKind.mem_assigns operator) rfl
      fun _ _ => yielding.any .assignment rfl trivial)).among (by decide)
  · exact yields_emit (derives.widen (by decide))

theorem yields_arrayItems (yielding : Yielding self) :
    (arrayItems self c h).Yields (listOf (maybe (oneOf assignments))) := by
  refine yields_look ?_
  generalize at_ : c.current = found
  split
  · exact yields_skip nil_mem_listOf
  · exact yields_skip nil_mem_listOf
  · exact (yields_bumpThen (List.mem_singleton.2 at_) rfl fun _ _ =>
      yielding.any .arrayItems rfl trivial).mono comma_mul_listOf_le
  · exact yields_items (yields_assignment yielding) le_maybe
      (fun _ _ => yielding.any .arrayItems rfl trivial) fun _ _ => yielding.array

/-- What may follow an item behind a comma, if a comma is next. -/
theorem yields_behindComma {p : Parser n} {e : Content} (again : ∀ d hd, (p d hd).Yields e) :
    (look (fun c => if c.current = .comma then bumpThen p else skip) c h).Yields
      (maybe (inTurn [only .comma, e])) := by
  refine yields_look ?_
  split
  · rename_i comma
    exact (yields_bumpThen (List.mem_singleton.2 comma) rfl again).maybe
  · exact yields_skip nil_mem_maybe

theorem yields_argumentList (yielding : Yielding self) :
    (argumentList self c h).Yields (listOf (oneOf assignments)) := by
  refine yields_look ?_
  generalize c.current = found
  split
  · exact yields_skip nil_mem_listOf
  · exact yields_skip nil_mem_listOf
  · exact (yields_andThen (yields_assignment yielding) (yields_behindComma fun _ _ =>
      yielding.any .argumentList rfl trivial)).mono mul_maybe_listOf_le

theorem yields_sequenceTail (yielding : Yielding self) :
    (sequenceTail self c h).Yields (many (inTurn [only .comma, oneOf assignments])) :=
  (yields_behindComma fun _ _ => yields_andThen (yielding.any .assignment rfl trivial)
    (yielding.any .sequenceTail rfl trivial)).mono maybe_mul_many.le

theorem yields_expression (yielding : Yielding self) :
    (expression self c h).Yields (oneOf expressions) := by
  refine yields_marked nil_notMem_oneOf (fun _ => yields_assignment yielding) ?_
  intro first d hd derives
  refine yields_look ?_
  split
  · rename_i comma
    have tail : sequenceTail self d hd =
        bumpThen (andThen (self .assignment) (self .sequenceTail)) d hd := by
      simp only [sequenceTail, look, comma, if_true]
    refine (yields_wrap rfl le_rfl derives ?_).among (by decide)
    rw [tail]
    exact yields_bumpThen (List.mem_singleton.2 comma) rfl fun _ _ =>
      yields_andThen (yielding.any .assignment rfl trivial) (yielding.any .sequenceTail rfl trivial)
  · exact yields_emit (derives.widen (by decide))

end Grammar

end ScriptLint
