import ScriptLint.Proofs.Syntax.Precedence

/-!
# Formulas

Expressions made up of names, numbers, brackets and operators, as data: what they are made up of
(`Formula`), the tree that each stands for (`Formula.tree`), the text that spells it with a space
between any two tokens (`Formula.text`), and whether it needs no more brackets than it has
(`Formula.Ordered`).
-/

namespace ScriptLint

open Lexeme (isExponentMark isSign isDigitPart isHexPart isRadixMark)
open Text (isWordStart isWordPart)

namespace Formula

/-- A name that is no reserved word. -/
structure Name where
  first : Char
  rest : Text
  starts : isWordStart first = true
  parts : rest.all isWordPart = true
  free : SyntaxKind.ofReserved? (String.ofList (first :: rest)) = none

/-- What a decimal number may end with. -/
inductive Exponent : Text → Prop
  | none : Exponent []
  | plain {mark first : Char} {digits : Text} (marks : isExponentMark mark = true)
      (digit : first.isDigit = true) (all : digits.all isDigitPart = true) :
      Exponent (mark :: first :: digits)
  | signed {mark sign first : Char} {digits : Text} (marks : isExponentMark mark = true)
      (signs : isSign sign = true) (digit : first.isDigit = true)
      (all : digits.all isDigitPart = true) : Exponent (mark :: sign :: first :: digits)

/-- Number literals: after a mark for another radix, whole, with a point inside or at the end, and
with a point at the start. -/
inductive Numeral : Text → Prop
  | radix {mark : Char} {digits : Text} (marks : isRadixMark mark = true)
      (all : digits.all isHexPart = true) : Numeral ('0' :: mark :: digits)
  | whole {first : Char} {digits exponent : Text} (digit : first.isDigit = true)
      (all : digits.all isDigitPart = true) (ends : Exponent exponent) :
      Numeral (first :: (digits ++ exponent))
  | decimal {first : Char} {digits fraction exponent : Text} (digit : first.isDigit = true)
      (all : digits.all isDigitPart = true) (behind : fraction.all isDigitPart = true)
      (ends : Exponent exponent) : Numeral (first :: (digits ++ '.' :: (fraction ++ exponent)))
  | point {first : Char} {digits exponent : Text} (digit : first.isDigit = true)
      (all : digits.all isDigitPart = true) (ends : Exponent exponent) :
      Numeral ('.' :: first :: (digits ++ exponent))

/-- The operators that stand in front of their operand. -/
def prefixes : List Lexeme :=
  [⟨.minus, ['-']⟩, ⟨.plus, ['+']⟩, ⟨.bang, ['!']⟩, ⟨.tilde, ['~']⟩,
   ⟨.typeofKeyword, ['t', 'y', 'p', 'e', 'o', 'f']⟩, ⟨.voidKeyword, ['v', 'o', 'i', 'd']⟩,
   ⟨.deleteKeyword, ['d', 'e', 'l', 'e', 't', 'e']⟩]

/-- The operators that stand between their operands. -/
def infixes : List Lexeme :=
  [⟨.coalesce, ['?', '?']⟩, ⟨.or, ['|', '|']⟩, ⟨.and, ['&', '&']⟩, ⟨.looseEqual, ['=', '=']⟩,
   ⟨.looseUnequal, ['!', '=']⟩, ⟨.strictEqual, ['=', '=', '=']⟩,
   ⟨.strictUnequal, ['!', '=', '=']⟩, ⟨.less, ['<']⟩, ⟨.greater, ['>']⟩,
   ⟨.lessEqual, ['<', '=']⟩, ⟨.greaterEqual, ['>', '=']⟩, ⟨.plus, ['+']⟩, ⟨.minus, ['-']⟩,
   ⟨.star, ['*']⟩, ⟨.slash, ['/']⟩, ⟨.percent, ['%']⟩]

def leftParen : Lexeme := ⟨.leftParen, ['(']⟩

def rightParen : Lexeme := ⟨.rightParen, [')']⟩

def terminator : Lexeme := ⟨.semicolon, [';']⟩

end Formula

open Formula (Name Numeral prefixes infixes leftParen rightParen terminator)

inductive Formula where
  | name (word : Name)
  | number (word : Text) (numeral : Numeral word)
  | group (inner : Formula)
  | prefixed (operator : { l // l ∈ prefixes }) (operand : Formula)
  | binary (left : Formula) (operator : { l // l ∈ infixes }) (right : Formula)

namespace Formula

/-- The level of an operator between operands. -/
def levelOf (operator : { l // l ∈ infixes }) : Nat := operator.1.kind.level?.getD 0

/-- How tightly a formula holds together: only operators between operands ever let go. -/
def level : Formula → Nat
  | .binary _ operator _ => levelOf operator
  | _ => SyntaxKind.levels.length

def isBinary : Formula → Bool
  | .binary .. => true
  | _ => false

/-- Whether all brackets are there that the levels of the operators ask for. -/
def Ordered : Formula → Prop
  | .name _ | .number .. => True
  | .group inner => inner.Ordered
  | .prefixed _ operand => operand.isBinary = false ∧ operand.Ordered
  | .binary left operator right =>
      levelOf operator ≤ left.level ∧ levelOf operator < right.level ∧ left.Ordered ∧ right.Ordered

instance decidableOrdered : (f : Formula) → Decidable f.Ordered
  | .name _ | .number .. => .isTrue trivial
  | .group inner => decidableOrdered inner
  | .prefixed _ operand =>
    have := decidableOrdered operand
    inferInstanceAs (Decidable (_ ∧ _))
  | .binary left _ right =>
    have := decidableOrdered left
    have := decidableOrdered right
    inferInstanceAs (Decidable (_ ∧ _ ∧ _ ∧ _))

/-- The tree of a formula, without trivia. -/
def tree : Formula → Tree
  | .name word => .node .identifier [.token .ident (word.first :: word.rest)]
  | .number word _ => .node .literal [.token .number word]
  | .group inner =>
      .node .parenthesizedExpression [.ofLexeme leftParen, inner.tree, .ofLexeme rightParen]
  | .prefixed operator operand => .node .unaryExpression [.ofLexeme operator.1, operand.tree]
  | .binary left operator right =>
      .node (if operator.1.kind ∈ [.coalesce, .or, .and] then .logicalExpression
        else .binaryExpression) [left.tree, .ofLexeme operator.1, right.tree]

/-- The leaves of a formula with a space between any two, and a semicolon behind another space. -/
def text (f : Formula) : Text :=
  [' '].intercalate (f.tree.lexemes.map (·.text)) ++ [' ', ';']

section
variable (inner left right : Formula)

@[simp] theorem lexemes_name (word : Name) :
    (Formula.name word).tree.lexemes = [⟨.ident, word.first :: word.rest⟩] := rfl

@[simp] theorem lexemes_number (word : Text) (numeral : Numeral word) :
    (Formula.number word numeral).tree.lexemes = [⟨.number, word⟩] := rfl

@[simp] theorem lexemes_group : (Formula.group inner).tree.lexemes =
    leftParen :: (inner.tree.lexemes ++ [rightParen]) := by
  simp [tree, Tree.lexemes, Tree.lexemesOf, Tree.ofLexeme]

@[simp] theorem lexemes_prefixed (operator : { l // l ∈ prefixes }) :
    (Formula.prefixed operator inner).tree.lexemes = operator.1 :: inner.tree.lexemes := by
  simp [tree, Tree.lexemes, Tree.lexemesOf, Tree.ofLexeme]

@[simp] theorem lexemes_binary (operator : { l // l ∈ infixes }) :
    (Formula.binary left operator right).tree.lexemes =
      left.tree.lexemes ++ operator.1 :: right.tree.lexemes := by
  simp [tree, Tree.lexemes, Tree.lexemesOf, Tree.ofLexeme]

theorem level?_levelOf (operator : { l // l ∈ infixes }) :
    operator.1.kind.level? = some (levelOf operator) := by
  have all : ∀ l ∈ infixes, l.kind.level?.isSome := by decide
  obtain ⟨level, known⟩ := Option.isSome_iff_exists.1 (all operator.1 operator.2)
  rw [levelOf, known, Option.getD_some]

end

end Formula

end ScriptLint
