import Mathlib.Order.Monotone.Basic
import ScriptLint.Proofs.Syntax.Derivation

/-!
# How tightly operators bind

The levels of the binary operators are given by a table of their own (`SyntaxKind.levels`). An
operation is in order if one operator stands between its operands, and what it has on its left binds
at least as tightly as that operator and what it has on its right more tightly. `Tree.Graded` says so
of all operations in a tree, in the numbers that the parser compares (`Tree.Binds`).
-/

namespace ScriptLint

namespace SyntaxKind

/-- The binary operators by how tightly they bind, the loosest first. -/
def levels : List (List SyntaxKind) :=
  [[.coalesce], [.or], [.and],
   [.looseEqual, .looseUnequal, .strictEqual, .strictUnequal],
   [.less, .greater, .lessEqual, .greaterEqual],
   [.plus, .minus],
   [.star, .slash, .percent]]

/-- The level of a binary operator. -/
def level? (k : SyntaxKind) : Option Nat := levels.findIdx? (k ∈ ·)

/-- Whether nodes of this kind hold an operator between two operands. -/
def isOperation (k : SyntaxKind) : Bool := k == .binaryExpression || k == .logicalExpression

/-- The binding power of the operators of a level. -/
def power : Nat → Nat
  | 0 => 1
  | 1 => 2
  | 2 => 3
  | 3 => 6
  | 4 => 7
  | level + 5 => level + 9

theorem power_strictMono : StrictMono power := by
  refine strictMono_nat_of_lt_succ fun level => ?_
  match level with
  | 0 | 1 | 2 | 3 | 4 => decide
  | level + 5 => simp [power]

theorem bindingPower?_eq (k : SyntaxKind) : k.bindingPower? = k.level?.map power := by
  cases k <;> rfl

theorem exists_level {k : SyntaxKind} {binds : Nat} (known : k.bindingPower? = some binds) :
    ∃ level, k.level? = some level ∧ binds = power level := by
  obtain ⟨level, at_, rfl⟩ := Option.map_eq_some_iff.1 (bindingPower?_eq k ▸ known)
  exact ⟨level, at_, rfl⟩

theorem level?_of_isTrivia {k : SyntaxKind} (trivia : k.isTrivia = true) : k.level? = none := by
  cases k <;> first | rfl | cases trivia

theorem binaryNode_eq_logical_iff {k : SyntaxKind} :
    k.binaryNode = .logicalExpression ↔ k ∈ [.coalesce, .or, .and] := by
  cases k <;> decide

end SyntaxKind

open SyntaxKind (power)

namespace Tree

/-- Whether a tree is an operator between two operands. -/
def isOperation : Tree → Bool
  | .token .. => false
  | .node kind _ => kind.isOperation

/-- The level of a token that is a binary operator. -/
def tokenLevel? : Tree → Option Nat
  | .token kind _ => kind.level?
  | .node .. => none

/-- The level of the first operator among the tokens of the node itself. -/
def level? : Tree → Option Nat
  | .token .. => none
  | .node _ children => children.findSome? tokenLevel?

/-- What an operation owes to its operator: it has no other token, it is logical only through it, and
its operands bind at least as tightly on the left and more tightly on the right, so that a chain of
operators of one level nests to the left. -/
structure Operation (kind : SyntaxKind) (before : List Tree) (operator : SyntaxKind)
    (behind : List Tree) (level : Nat) : Prop where
  known : operator.level? = some level
  alone : ∀ other word, .token other word ∈ before ++ behind → other.isTrivia = true
  logical : kind = .logicalExpression ↔ operator ∈ [.coalesce, .or, .and]
  left : ∀ t ∈ before, t.isOperation = true → ∃ inner, t.level? = some inner ∧ level ≤ inner
  right : ∀ t ∈ behind, t.isOperation = true → ∃ inner, t.level? = some inner ∧ level < inner
  leftward : ∀ t ∈ behind, t.isOperation = true → t.level? ≠ some level

/-- Whether a tree may be an operand next to an operator: it is no token but trivia, and if it is an
operation, then one that binds as tightly as this. -/
def Binds (least : Nat) : Tree → Prop
  | .token kind _ => kind.isTrivia = true
  | .node kind children => kind.isOperation = true →
      ∃ level, (Tree.node kind children).level? = some level ∧ least ≤ power level

/-- Whether all operations in a tree have their operands in order. -/
inductive Graded : Tree → Prop where
  | token {kind : SyntaxKind} {text : Text} : Graded (.token kind text)
  | node {kind : SyntaxKind} {children : List Tree} (plain : kind.isOperation = false)
      (graded : ∀ t ∈ children, Graded t) : Graded (.node kind children)
  | operation {operator : SyntaxKind} {word : Text} {before behind : List Tree} {level : Nat}
      (known : operator.level? = some level)
      (left : ∀ t ∈ before, Graded t) (binds : ∀ t ∈ before, t.Binds (power level))
      (right : ∀ t ∈ behind, Graded t) (tighter : ∀ t ∈ behind, t.Binds (power level + 1)) :
      Graded (.node operator.binaryNode (before ++ .token operator word :: behind))

/-- A tree in order that fits in next to any operator. -/
structure Operand (t : Tree) : Prop where
  graded : t.Graded
  binds : ∀ least, t.Binds least

section
variable {t : Tree} {ts before behind : List Tree} {kind operator : SyntaxKind} {word : Text}
  {least level : Nat}

theorem Binds.exists_level (binds : t.Binds least) (operation : t.isOperation = true) :
    ∃ level, t.level? = some level ∧ least ≤ power level := by
  cases t with
  | token kind text => cases operation
  | node kind children => exact binds operation

theorem binds_ofLexeme {l : Lexeme} (trivia : l.isTrivia = true) : (ofLexeme l).Binds least := trivia

/-- No token of an operand is an operator. -/
theorem Binds.tokenLevel? (binds : t.Binds least) : t.tokenLevel? = none := by
  cases t with
  | token kind text => exact SyntaxKind.level?_of_isTrivia binds
  | node kind children => rfl

theorem level?_operation (binds : ∀ t ∈ before, t.Binds least) (known : operator.level? = some level) :
    (Tree.node kind (before ++ .token operator word :: behind)).level? = some level := by
  have none : before.findSome? tokenLevel? = none :=
    List.findSome?_eq_none_iff.2 fun t mem => (binds t mem).tokenLevel?
  rw [level?, List.findSome?_append, none, Option.none_or, List.findSome?_cons_of_isSome]
  · exact known
  · simp [tokenLevel?, known]

theorem operand_ofLexeme {l : Lexeme} (trivia : l.isTrivia = true) : (ofLexeme l).Operand :=
  ⟨.token, fun _ => binds_ofLexeme trivia⟩

theorem operand_node (plain : kind.isOperation = false) (graded : ∀ t ∈ ts, t.Graded) :
    ∀ t ∈ [Tree.node kind ts], t.Operand := by
  intro t mem
  obtain rfl := List.mem_singleton.1 mem
  exact ⟨.node plain graded, fun _ operation => by rw [plain] at operation; cases operation⟩

/-- The operands of an operation in order, told by levels. -/
theorem operation_of_binds (known : operator.level? = some level)
    (binds : ∀ t ∈ before, t.Binds (power level))
    (tighter : ∀ t ∈ behind, t.Binds (power level + 1)) :
    Operation operator.binaryNode before operator behind level := by
  have right (t : Tree) (mem : t ∈ behind) (operation : t.isOperation = true) :
      ∃ inner, t.level? = some inner ∧ level < inner := by
    obtain ⟨inner, at_, above⟩ := (tighter t mem).exists_level operation
    exact ⟨inner, at_, SyntaxKind.power_strictMono.lt_iff_lt.1 above⟩
  refine ⟨known, ?_, SyntaxKind.binaryNode_eq_logical_iff, ?_, right, ?_⟩
  · intro other word mem
    rcases List.mem_append.1 mem with left | right
    · exact binds _ left
    · exact tighter _ right
  · intro t mem operation
    obtain ⟨inner, at_, above⟩ := (binds t mem).exists_level operation
    exact ⟨inner, at_, SyntaxKind.power_strictMono.le_iff_le.1 above⟩
  · intro t mem operation same
    obtain ⟨inner, at_, above⟩ := right t mem operation
    obtain rfl : inner = level := Option.some.inj (at_.symm.trans same)
    exact Nat.lt_irrefl _ above

/-- Every operation in a tree that is in order has its operator and its operands. -/
theorem Graded.operation_of_mem_parts (graded : t.Graded) (part : .node kind ts ∈ t.parts)
    (operation : kind.isOperation = true) :
    ∃ before operator word behind level, ts = before ++ .token operator word :: behind ∧
      Operation kind before operator behind level := by
  induction graded with
  | token => cases List.mem_singleton.1 part
  | node plain graded ih =>
    rcases List.mem_cons.1 part with same | below
    · cases same
      rw [plain] at operation
      cases operation
    · obtain ⟨t, child, part⟩ := mem_partsOf.1 below
      exact ih t child part
  | operation known left binds right tighter ihLeft ihRight =>
    rcases List.mem_cons.1 part with same | below
    · cases same
      exact ⟨_, _, _, _, _, rfl, operation_of_binds known binds tighter⟩
    · obtain ⟨t, child, part⟩ := mem_partsOf.1 below
      rcases List.mem_append.1 child with before | rest
      · exact ihLeft t before part
      · rcases List.mem_cons.1 rest with rfl | behind
        · cases List.mem_singleton.1 part
        · exact ihRight t behind part

end

end Tree

open ScriptLint.Tree (Graded Operand)

namespace Parser

variable {n : Nat} {P : Tree → Prop} {p q : Parser n} {use : List Tree → Parser n}
  {kind : SyntaxKind} {held : List Tree}

/-- Whether all trees that a parser hands out are of a sort. -/
def Hands (P : Tree → Prop) (p : Parser n) : Prop := ∀ c h, ∀ t ∈ (p c h).out, P t

theorem Hands.graded (hands : Hands Operand p) : Hands Graded p :=
  fun c h t mem => (hands c h t mem).graded

theorem operand_trivia (c : Cursor) : ∀ t ∈ c.trivia.map Tree.ofLexeme, t.Operand := by
  intro t mem
  obtain ⟨l, among, rfl⟩ := List.mem_map.1 mem
  exact Tree.operand_ofLexeme (Cursor.isTrivia_of_mem_trivia among)

theorem graded_cons {l : Lexeme} {ts : List Tree} (graded : ∀ t ∈ ts, t.Graded) :
    ∀ t ∈ Tree.ofLexeme l :: ts, t.Graded :=
  List.forall_mem_cons.2 ⟨.token, graded⟩

theorem hands_look {choose : Cursor → Parser n} (chosen : ∀ c, Hands P (choose c)) :
    Hands P (look choose) :=
  fun c h => chosen c c h

theorem hands_emit (all : ∀ t ∈ held, P t) : Hands P (emit held : Parser n) := fun _ _ => all

theorem hands_skip : Hands P (skip : Parser n) := hands_emit (by simp)

theorem hands_fail {problem : SyntaxKind → SyntaxProblem} : Hands P (fail problem : Parser n) :=
  fun _ _ _ mem => absurd mem List.not_mem_nil

theorem hands_andThen (first : Hands P p) (second : Hands P q) : Hands P (andThen p q) :=
  fun c h => List.forall_mem_append.2 ⟨first c h, second _ _⟩

theorem hands_capture {Q : Tree → Prop} (first : Hands Q p)
    (second : ∀ ts, (∀ t ∈ ts, Q t) → Hands P (use ts)) : Hands P (capture p use) :=
  fun c h => second _ (first c h) _ _

section
variable (of : ∀ {t : Tree}, t.Operand → P t)
include of

theorem hands_trivia : Hands P (trivia : Parser n) :=
  fun c _ t mem => of (operand_trivia c t mem)

theorem hands_marked {Q : Tree → Prop} (first : Hands Q p)
    (second : ∀ ts, (∀ t ∈ ts, Q t) → Hands P (use ts)) : Hands P (marked p use) :=
  hands_andThen (hands_trivia of) (hands_capture first second)

theorem hands_take {use : List Tree → Lexeme → Parser n}
    (second : ∀ gap l, (∀ t ∈ gap, Operand t) → Hands P (use gap l)) : Hands P (take use) := by
  intro c h
  by_cases eq : c.pastTrivia.rest = []
  · rw [take_of_nil eq]
    exact hands_trivia of c h
  · obtain ⟨l, rest, eq, hd⟩ := Cursor.exists_token eq h
    rw [take_of_cons eq hd]
    exact second _ l (operand_trivia c) _ hd

end

theorem hands_node (plain : kind.isOperation = false) (inner : Hands Graded p) :
    Hands Operand (node kind p) :=
  hands_marked id inner fun _ graded => hands_emit (Tree.operand_node plain graded)

theorem hands_wrap (plain : kind.isOperation = false) (graded : ∀ t ∈ held, t.Graded)
    (inner : Hands Graded p) : Hands Operand (wrap kind held p) :=
  hands_capture inner fun _ more =>
    hands_emit (Tree.operand_node plain (List.forall_mem_append.2 ⟨graded, more⟩))

theorem hands_bumpThen (second : Hands Graded p) : Hands Graded (bumpThen p) :=
  hands_take Operand.graded fun _ _ gap =>
    have token := List.forall_mem_append.2 ⟨fun t mem => (gap t mem).graded, graded_cons (List.forall_mem_nil _)⟩
    hands_andThen (hands_emit token) second

theorem hands_bumpAs : Hands Graded (bumpAs kind : Parser n) := by
  intro c h
  cases eq : c.pastTrivia.rest with
  | nil =>
    rw [bumpAs_of_nil eq]
    exact hands_trivia Operand.graded c h
  | cons l rest =>
    rw [bumpAs_of_cons eq (Nat.lt_trans (Cursor.length_behind eq _) h)]
    refine List.forall_mem_append.2 ⟨fun t mem => (operand_trivia c t mem).graded, ?_⟩
    exact List.forall_mem_singleton.2 .token

theorem hands_bump : Hands Graded (bump : Parser n) := hands_look fun _ => hands_bumpAs

theorem hands_expect : Hands Graded (expect kind : Parser n) := by
  apply hands_look
  intro c
  split
  · exact hands_bump
  · exact hands_fail

theorem hands_reject {problem : SyntaxKind → SyntaxProblem} :
    Hands Operand (reject problem : Parser n) := by
  apply hands_look
  intro c
  split
  · exact hands_fail
  · exact hands_andThen hands_fail (hands_node rfl hands_bump)

theorem hands_rejectThen {problem : SyntaxKind → SyntaxProblem} (more : Hands Graded p) :
    Hands Graded (rejectThen problem p) := by
  apply hands_look
  intro c
  split
  · exact hands_fail
  · refine hands_andThen hands_fail (hands_take Operand.graded fun gap l trivia => ?_)
    have error : ∀ t ∈ [Tree.node .error [.ofLexeme l]], t.Operand :=
      Tree.operand_node rfl (List.forall_mem_singleton.2 .token)
    have all := List.forall_mem_append.2 ⟨trivia, error⟩
    exact hands_andThen (hands_emit fun t mem => (all t mem).graded) more

theorem hands_progress {p stuck : Parser (n + 1)} (first : Hands P p) (again : Hands P q)
    (otherwise : Hands P stuck) : Hands P (progress p q stuck) := by
  intro c h
  simp only [progress]
  split
  · exact List.forall_mem_append.2 ⟨first c h, again _ _⟩
  · exact List.forall_mem_append.2 ⟨first c h, otherwise _ _⟩

end Parser

/-- What the parser for operators that bind at least as tightly as a minimum gives: operands that do
so, and no such operator ahead. -/
structure Parsed.Climbs {n : Nat} (r : Parsed n) (minimum : Nat) : Prop where
  graded : ∀ t ∈ r.out, t.Graded
  binds : ∀ t ∈ r.out, t.Binds minimum
  stops : ∀ power, r.next.current.bindingPower? = some power → power < minimum

end ScriptLint
