import ScriptLint.Proofs.Syntax.Accepting
import ScriptLint.Proofs.Syntax.Formula

/-!
# Formulas are read whole

From the tokens of a formula that has the brackets it needs, the expression parser makes its tree,
whatever the bounds of the parsers are (`Formula.reads`). The induction is on the formula. An
operation is read in a loop that starts with its leftmost operand, so what is said of a formula at
the left of operators is said with the rest of that loop as a hypothesis (`Formula.ReadsChained`).
-/

namespace ScriptLint

open Lexeme (ahead)
open ScriptLint.Parser
open SyntaxKind (power power_strictMono)
open ScriptLint.Tree (bareOf)

/-- Whether a kind may come behind a formula: a closing bracket, a semicolon or an operator. -/
def SyntaxKind.trails (k : SyntaxKind) : Bool :=
  k == .rightParen || k == .semicolon || k.level?.isSome

namespace Grammar

variable {n : Nat} {self : Nonterminal → Parser n} {ls rest rest' : List Lexeme} {ts us : List Tree}
  {t : Tree}

/-- No suffix follows. -/
theorem accepts_suffixes {callee : List Tree} {calls : Bool} (trails : (ahead rest).trails = true)
    (same : bareOf id callee = ts) : Accepts (suffixes self callee calls) rest ts rest := by
  apply accepts_look
  intro c _ current
  rw [← current] at trails
  generalize c.current = found at trails
  split
  iterate 4 exact absurd trails (by decide)
  · exact accepts_emit same

/-- An operand that starts with a primary expression is that expression. -/
theorem accepts_unary (plain : (ahead ls).isPrefixOperator = false)
    (other : (ahead ls).isUpdateOperator = false) (old : ahead ls ≠ .newKeyword)
    (trails : (ahead rest).trails = true) (first : Accepts (primary self) ls ts rest) :
    Accepts (unary self) ls ts rest := by
  have callee : Accepts (callee self) ls ts rest := accepts_look fun c _ current => by
    rw [if_neg (current ▸ old)]
    exact first
  have call : Accepts (call self) ls ts rest :=
    accepts_marked callee fun _ same => accepts_suffixes trails same
  have ends : (ahead rest).isUpdateOperator = false := by
    generalize ahead rest = found at trails
    cases found <;> first | rfl | cases trails
  apply accepts_look
  intro c _ current
  rw [if_neg (by simp [current, plain]), if_neg (by simp [current, other])]
  refine accepts_alone call fun d at_ => ?_
  simp [Cursor.current_of_significant at_, ends]

/-- A chain of operators ends in front of one that binds less tightly, and where there is none. -/
theorem accepts_stop {left : List Tree} {least : Nat}
    (stops : ∀ level, (ahead rest).level? = some level → power level < least)
    (same : bareOf id left = ts) : Accepts (binaryTail self left least) rest ts rest := by
  apply accepts_look
  intro c _ current
  cases known : c.current.bindingPower? with
  | none => exact accepts_emit same
  | some binds =>
    obtain ⟨level, at_, rfl⟩ := SyntaxKind.exists_level known
    dsimp only
    rw [if_pos (stops level (current ▸ at_))]
    exact accepts_emit same

/-- One turn of a chain of operators: an operator with its right operand, and what goes on behind. -/
theorem accepts_turn {operator : Lexeme} {left : List Tree} {level least : Nat}
    (known : operator.kind.level? = some level) (enough : least ≤ power level)
    (same : bareOf id left = [t]) {u : Tree}
    (right : Accepts (self (.binary (power level + 1))) ls [u] rest)
    (onward : ∀ left', bareOf id left' = [.node operator.kind.binaryNode [t, .ofLexeme operator, u]] →
      Accepts (self (.binaryTail left' least)) rest us rest') :
    Accepts (binaryTail self left least) (operator :: ls) us rest' := by
  apply accepts_look
  intro c _ current
  have binds : c.current.bindingPower? = some (power level) := by
    rw [current, Lexeme.ahead_cons, SyntaxKind.bindingPower?_eq, known]
    rfl
  rw [binds]
  dsimp only
  rw [if_neg (Nat.not_lt.2 enough)]
  refine accepts_take fun gap significant none => accepts_capture right fun out operand => ?_
  refine onward _ ?_
  rw [Tree.bareOf_node, Tree.bareOf_append, Tree.bareOf_append, same, none,
    Tree.bareOf_cons significant, operand]
  rfl

/-- An expression is its first operation if neither a question mark, nor an assignment, nor a comma
follows. -/
theorem accepts_expression (closes : ahead rest = .rightParen ∨ ahead rest = .semicolon)
    (first : Accepts (binary self 0) ls ts rest) : Accepts (expression self) ls ts rest := by
  have at_ (c : Cursor) (tokens : Lexeme.significant c.rest = rest) :
      c.current = .rightParen ∨ c.current = .semicolon :=
    (Cursor.current_of_significant tokens).symm ▸ closes
  have conditional : Accepts (conditional self) ls ts rest := accepts_alone first fun c tokens => by
    rcases at_ c tokens with eq | eq <;> simp [eq]
  have assignment : Accepts (assignment self) ls ts rest :=
    accepts_alone conditional fun c tokens => by
      rcases at_ c tokens with eq | eq <;> simp [eq, SyntaxKind.isAssignmentOperator]
  exact accepts_alone assignment fun c tokens => by
    rcases at_ c tokens with eq | eq <;> simp [eq]

/-- The parser of a nonterminal accepts what its production accepts for any bound. -/
theorem accepts_of_production {g : Nonterminal}
    (all : ∀ n, Accepts (production (Nonterminal.parser n) g) ls ts rest) :
    Accepts (Nonterminal.parser n g) ls ts rest := by
  cases n with
  | zero => exact fun _ h => absurd h (Nat.not_lt_zero _)
  | succ n => exact all n

end Grammar

open Grammar

namespace Formula

variable {f left right : Formula} {rest : List Lexeme}

/-- Whether a formula is read as an operand. -/
def ReadsAlone (f : Formula) : Prop :=
  ∀ n rest, (ahead rest).trails = true →
    Accepts (unary (Nonterminal.parser n)) (f.tree.lexemes ++ rest) [f.tree] rest

/-- Whether a formula is read at the start of a chain of operators that it fits in: where the chain
goes on as it does behind the tree of the formula. -/
def ReadsChained (f : Formula) : Prop :=
  ∀ n least rest us rest', least ≤ power f.level → (ahead rest).trails = true →
    (∀ level, (ahead rest).level? = some level → level ≤ f.level) →
    (∀ n left, bareOf id left = [f.tree] →
      Accepts (binaryTail (Nonterminal.parser n) left least) rest us rest') →
    Accepts (Grammar.binary (Nonterminal.parser n) least) (f.tree.lexemes ++ rest) us rest'

theorem ReadsAlone.chained (alone : f.ReadsAlone) : f.ReadsChained :=
  fun n _ rest _ _ _ trails _ onward => accepts_marked (alone n rest trails) (onward n)

/-- Where the chain stops behind a formula, it is the formula. -/
theorem ReadsChained.whole (chained : f.ReadsChained) {n least : Nat} (fits : least ≤ power f.level)
    (trails : (ahead rest).trails = true)
    (below : ∀ level, (ahead rest).level? = some level → level ≤ f.level)
    (stops : ∀ level, (ahead rest).level? = some level → power level < least) :
    Accepts (Grammar.binary (Nonterminal.parser n) least) (f.tree.lexemes ++ rest) [f.tree] rest :=
  chained n least rest _ _ fits trails below fun _ _ => accepts_stop stops

theorem ReadsChained.expression (chained : f.ReadsChained) {n : Nat}
    (closes : ahead rest = .rightParen ∨ ahead rest = .semicolon) :
    Accepts (expression (Nonterminal.parser n)) (f.tree.lexemes ++ rest) [f.tree] rest := by
  have none : (ahead rest).level? = none := by
    rcases closes with eq | eq <;> rw [eq] <;> rfl
  have trails : (ahead rest).trails = true := by
    rcases closes with eq | eq <;> rw [eq] <;> rfl
  exact accepts_expression closes (chained.whole (Nat.zero_le _) trails
    (fun level at_ => by rw [none] at at_; cases at_) fun level at_ => by rw [none] at at_; cases at_)

/-- A literal or a name. -/
theorem readsAlone_leaf {l : Lexeme} {kind : SyntaxKind} (lexemes : f.tree.lexemes = [l])
    (tree : f.tree = .node kind [.ofLexeme l]) (is : (l.kind = .ident ∧ kind = .identifier) ∨
      (l.kind = .number ∧ kind = .literal)) : f.ReadsAlone := by
  intro n rest trails
  have word : Accepts (leaf kind : Parser (n + 1)) (l :: rest) [.node kind [.ofLexeme l]] rest :=
    accepts_node accepts_bump
  rw [lexemes, tree, List.singleton_append]
  refine accepts_unary ?_ ?_ ?_ trails (accepts_look fun c _ current => ?_)
  iterate 3 rcases is with ⟨eq, -⟩ | ⟨eq, -⟩ <;> simp [eq, SyntaxKind.isPrefixOperator,
    SyntaxKind.isUpdateOperator]
  rcases is with ⟨eq, rfl⟩ | ⟨eq, rfl⟩ <;> rw [current, Lexeme.ahead_cons, eq] <;> exact word

theorem readsAlone_group (inner : f.ReadsChained) : (Formula.group f).ReadsAlone := by
  intro n rest trails
  rw [lexemes_group, List.cons_append, List.append_assoc]
  refine accepts_unary rfl rfl SyntaxKind.noConfusion trails (accepts_look fun c _ current => ?_)
  rw [current]
  have whole : Accepts (Nonterminal.parser n .expression)
      (f.tree.lexemes ++ ([rightParen] ++ rest)) [f.tree] ([rightParen] ++ rest) :=
    accepts_of_production fun _ => inner.expression (.inl rfl)
  exact accepts_node (accepts_bumpThen (accepts_andThen whole (accepts_expect rfl)))

theorem readsAlone_prefixed {operator : { l // l ∈ prefixes }} (operand : f.ReadsAlone) :
    (Formula.prefixed operator f).ReadsAlone := by
  intro n rest trails
  have stands : operator.1.kind.isPrefixOperator = true :=
    (show ∀ l ∈ prefixes, l.kind.isPrefixOperator = true by decide) _ operator.2
  rw [lexemes_prefixed, List.cons_append]
  apply accepts_look
  intro c _ current
  rw [if_pos (by rw [current]; exact stands)]
  exact accepts_node (accepts_bumpThen (accepts_of_production fun _ => operand _ _ trails))

theorem binaryNode_eq (operator : { l // l ∈ infixes }) : operator.1.kind.binaryNode =
    if operator.1.kind ∈ [.coalesce, .or, .and] then .logicalExpression else .binaryExpression :=
  (show ∀ l ∈ infixes, l.kind.binaryNode =
    if l.kind ∈ [.coalesce, .or, .and] then .logicalExpression else .binaryExpression by decide)
    _ operator.2

theorem readsChained_binary {operator : { l // l ∈ infixes }} (leftFits : levelOf operator ≤ left.level)
    (rightFits : levelOf operator < right.level) (first : left.ReadsChained)
    (second : right.ReadsChained) : (Formula.binary left operator right).ReadsChained := by
  intro n least rest us rest' fits trails below onward
  have known := level?_levelOf operator
  -- The right operand stops in front of what follows, which binds no more tightly.
  have operand (n : Nat) : Accepts (Grammar.binary (Nonterminal.parser n)
      (power (levelOf operator) + 1)) (right.tree.lexemes ++ rest) [right.tree] rest :=
    second.whole (Nat.succ_le_of_lt (power_strictMono rightFits)) trails
      (fun level at_ => Nat.le_trans (below level at_) (Nat.le_of_lt rightFits))
      fun level at_ => Nat.lt_succ_of_le (power_strictMono.monotone (below level at_))
  rw [lexemes_binary, List.append_assoc, List.cons_append]
  refine first n least _ us rest' (Nat.le_trans fits (power_strictMono.monotone leftFits)) ?_ ?_ ?_
  · rw [Lexeme.ahead_cons, SyntaxKind.trails, known]
    simp
  · intro level at_
    obtain rfl : levelOf operator = level := Option.some.inj (known.symm.trans at_)
    exact leftFits
  · intro n out same
    refine accepts_turn known fits same (accepts_of_production operand) fun out' same' => ?_
    refine accepts_of_production fun n => onward n out' ?_
    rw [same', binaryNode_eq operator]
    rfl

/-- An operand is read at the start of a chain too. -/
theorem ReadsAlone.reads (alone : f.ReadsAlone) :
    (f.isBinary = false → f.ReadsAlone) ∧ f.ReadsChained :=
  ⟨fun _ => alone, alone.chained⟩

/-- A formula that has the brackets it needs is read as an operand unless it is an operation, and at
the start of a chain in any case. -/
theorem reads (ordered : f.Ordered) : (f.isBinary = false → f.ReadsAlone) ∧ f.ReadsChained := by
  induction f with
  | name word => exact (readsAlone_leaf rfl rfl (.inl ⟨rfl, rfl⟩)).reads
  | number word numeral => exact (readsAlone_leaf rfl rfl (.inr ⟨rfl, rfl⟩)).reads
  | group inner ih => exact (readsAlone_group (ih ordered).2).reads
  | prefixed operator operand ih => exact (readsAlone_prefixed ((ih ordered.2).1 ordered.1)).reads
  | binary left operator right ihLeft ihRight =>
    obtain ⟨leftFits, rightFits, leftOrdered, rightOrdered⟩ := ordered
    refine ⟨fun plain => absurd plain Bool.noConfusion, ?_⟩
    exact readsChained_binary leftFits rightFits (ihLeft leftOrdered).2 (ihRight rightOrdered).2

end Formula

end ScriptLint
