import ScriptLint.Proofs.Syntax.Lossless
import ScriptLint.Proofs.Syntax.Neat.Statement
import ScriptLint.Proofs.Syntax.Derivation.Expression

/-!
# Texts without errors are derived

With the statements, every production yields the content of its nonterminal if all that it calls
behind a token does. By induction on the bound of the parsers, all nonterminals do (`yielding_all`).
So the tree of a text without errors is a derivation of the grammar (`parse_derived`).
-/

namespace ScriptLint

open Content

namespace SyntaxKind

theorem mem_declares {k : SyntaxKind} (starts : k.startsDeclaration = true) : k ∈ declares := by
  unfold startsDeclaration at starts
  split at starts <;> first | decide | cases starts

end SyntaxKind

namespace Grammar

open ScriptLint.Parser

variable {n : Nat} {self : Nonterminal → Parser n} {c : Cursor} {h : c.length < n + 1}

theorem yields_semicolon {n : Nat} {h : c.length < n} :
    ((semicolon : Parser n) c h).Yields (maybe (only .semicolon)) := by
  refine yields_look ?_
  split
  · rename_i at_
    exact (yields_bump (List.mem_singleton.2 at_) rfl).maybe
  split
  · exact yields_skip nil_mem_maybe
  · exact yields_fail

theorem yields_declarator (yielding : Yielding self) :
    (declarator self c h).Yields (only .variableDeclarator) := by
  refine yields_node rfl le_rfl fun _ => yields_andThen (yields_look ?_) (yields_look ?_)
  · split
    · rename_i ident
      exact yields_leaf rfl le_rfl (List.mem_singleton.2 ident) rfl
    · exact yields_fail
  · split
    · rename_i assign
      exact (yields_bumpThen (List.mem_singleton.2 assign) rfl fun _ _ =>
        yielding.any .assignment rfl trivial).maybe
    · exact yields_skip nil_mem_maybe

theorem yields_declarators (yielding : Yielding self) :
    (declarators self c h).Yields (separated (only .variableDeclarator)) :=
  (yields_andThen (yields_declarator yielding) (yields_behindComma fun _ _ =>
    yielding.any .declarators rfl trivial)).mono (mul_le_mul' le_rfl maybe_mul_many.le)

theorem yields_declaration (yielding : Yielding self) {inForHead : Bool}
    (starts : c.current.startsDeclaration = true) :
    (declaration self inForHead c h).Yields (only .variableDeclaration) := by
  have among := SyntaxKind.mem_declares starts
  refine yields_node rfl le_rfl fun _ => yields_bumpThen (by simpa using among) rfl fun _ _ =>
    yields_andThen (yielding.any .declarators rfl trivial) ?_
  split
  · exact yields_skip nil_mem_maybe
  · exact yields_semicolon

theorem yields_block (yielding : Yielding self) (brace : c.current = .leftBrace) :
    (block self c h).Yields (only .blockStatement) :=
  yields_bracketed (g := .statements true) yielding rfl le_rfl brace ⟨rfl, rfl⟩ rfl
    fun _ => trivial

theorem yields_elsePart (yielding : Yielding self) {h : c.length < n} :
    (look (fun c => if c.current = .elseKeyword then andThen bump (self .statement) else skip)
      c h).Yields (maybe (inTurn [only .elseKeyword, oneOf Content.statements])) := by
  refine yields_look ?_
  split
  · rename_i at_
    exact (yields_andThen (yields_bump (List.mem_singleton.2 at_) rfl)
      (yielding.any .statement rfl trivial)).maybe
  · exact yields_skip nil_mem_maybe

theorem yields_ifStatement (yielding : Yielding self) (at_ : c.current = .ifKeyword) :
    (ifStatement self c h).Yields (only .ifStatement) :=
  yields_node rfl le_rfl fun _ => yields_bumpThen (List.mem_singleton.2 (by simpa using at_)) rfl
    fun _ _ => yields_andThen (yields_expect rfl) <|
      yields_andThen (yielding.any .expression rfl trivial) <|
      yields_andThen (yields_expect rfl) <|
      yields_andThen (yielding.any .statement rfl trivial) (yields_elsePart yielding)

theorem yields_returnStatement (yielding : Yielding self) (at_ : c.current = .returnKeyword) :
    (returnStatement self c h).Yields (only .returnStatement) := by
  refine yields_node rfl le_rfl fun _ => yields_bumpThen
    (List.mem_singleton.2 (by simpa using at_)) rfl fun _ _ =>
      yields_andThen (yields_look ?_) yields_semicolon
  split
  · exact (yielding.any .expression rfl trivial).maybe
  · exact yields_skip nil_mem_maybe

/-- The start of the head of a loop is empty only in front of a semicolon. -/
theorem yields_forStart (yielding : Yielding self) {h : c.length < n} {e : Content}
    (le : loopStart.matches' ≤ e.matches')
    (empty : (forStart self c h).next.current = .semicolon → [] ∈ e.matches') :
    (forStart self c h).Yields (inTurn [only .leftParen, e]) := by
  refine yields_andThen (yields_expect rfl) ?_
  have at_ (skips : ((expect .leftParen : Parser n) c h).next.current = .semicolon) :
      (forStart self c h).next.current = .semicolon := by
    simp [forStart, andThen, look, skips, SyntaxKind.startsDeclaration, skip, emit]
  refine yields_look ?_
  split
  · rename_i starts
    exact ((yielding.any (.declaration true) rfl starts).among (by decide)).mono le
  split
  · rename_i semicolon
    exact yields_skip (empty (at_ semicolon))
  · exact ((yielding.any .assignment rfl trivial).widen (List.subset_cons_self _ _)).mono le

theorem yields_forEnd (yielding : Yielding self) {h : c.length < n} :
    (forEnd self c h).Yields (inTurn [only .rightParen, oneOf Content.statements]) :=
  yields_andThen (yields_expect rfl) (yielding.any .statement rfl trivial)

/-- An expression, unless the part of the head that it would fill is empty. -/
theorem yields_unless (yielding : Yielding self) {close : SyntaxKind} {h : c.length < n} :
    (look (fun c => if c.current = close then skip else self .expression) c h).Yields
      (maybe (oneOf expressions)) := by
  refine yields_look ?_
  split
  · exact yields_skip nil_mem_maybe
  · exact (yielding.any .expression rfl trivial).maybe

/-- What follows the start of the head of a loop with three parts. -/
theorem yields_forRest (yielding : Yielding self) {h : c.length < n} :
    (andThen (expect .semicolon) (andThen (forPart self .semicolon)
      (andThen (look fun c => if c.current = .rightParen then skip else self .expression)
        (forEnd self))) c h).Yields
      (inTurn [only .semicolon, maybe (oneOf expressions), only .semicolon,
        maybe (oneOf expressions), only .rightParen, oneOf Content.statements]) := by
  have test {c : Cursor} {h : c.length < n} : (forPart self .semicolon c h).Yields
      (inTurn [maybe (oneOf expressions), only .semicolon]) :=
    yields_andThen (yields_unless yielding) (yields_expect rfl)
  refine (yields_andThen (yields_expect rfl) (yields_andThen test
    (yields_andThen (yields_unless yielding) (yields_forEnd yielding)))).mono ?_
  exact mul_le_mul' le_rfl (mul_assoc (G := Language SyntaxKind) _ _ _).le

theorem current_of_atWord {word : Text} (at_ : c.atWord word = true) : c.current = .ident := by
  cases next : c.significant? with
  | none => simp [Cursor.atWord, next] at at_
  | some l =>
    simp only [Cursor.atWord, next, Option.any_some, Bool.and_eq_true, beq_iff_eq] at at_
    rw [Cursor.current_of_significant? next, at_.1]

theorem yields_forStatement (yielding : Yielding self) (at_ : c.current = .forKeyword) :
    (forStatement self c h).Yields (oneOf Content.statements) := by
  refine yields_take (by simp [at_]) fun l d hd kind plain => ?_
  refine yields_triviaThen (fun _ => Cursor.isTrivia_of_mem_trivia) nil_notMem_oneOf ?_
  intro errors
  obtain ⟨one, two⟩ := List.append_eq_nil_iff.1 errors
  revert two
  -- What the head starts with depends on the form of the loop, which only what follows it tells.
  have head {e : Content} (le : loopStart.matches' ≤ e.matches')
      (empty : (forStart self d hd).next.current = .semicolon → [] ∈ e.matches') :
      Derives (inTurn [only .forKeyword, only .leftParen, e])
        (.ofLexeme l :: (forStart self d hd).out) :=
    (derives_ofLexeme (at_ ▸ kind) rfl plain).append (yields_forStart yielding le empty one)
  refine (yields_look ?_ : Parsed.Yields _ _)
  split
  · rename_i word
    have ident := current_of_atWord word
    refine (yields_wrap rfl inTurn_mul.le (head le_rfl (by simp [ident])) ?_).among (by decide)
    exact yields_andThen (yields_bumpAs (by simp [ident]) rfl rfl)
      (yields_andThen (yielding.any .assignment rfl trivial) (yields_forEnd yielding))
  split
  · rename_i at_
    refine (yields_wrap rfl inTurn_mul.le (head le_rfl (by simp [at_])) ?_).among (by decide)
    exact yields_andThen (yields_bump (List.mem_singleton.2 at_) rfl)
      (yields_andThen (yielding.any .expression rfl trivial) (yields_forEnd yielding))
  · exact (yields_wrap rfl inTurn_mul.le (head le_maybe fun _ => nil_mem_maybe)
      (yields_forRest yielding)).among (by decide)

theorem yields_statementBody (yielding : Yielding self) (more : c.current ≠ .endOfInput) :
    (statementBody self c h).Yields (oneOf Content.statements) := by
  refine yields_look ?_
  generalize at_ : c.current = found at more
  split
  iterate 3 exact (yields_declaration yielding (at_ ▸ rfl)).among (by decide)
  · exact (yields_leaf rfl le_rfl (List.mem_singleton.2 at_) rfl).among (by decide)
  · exact (yields_block yielding at_).among (by decide)
  · exact (yields_ifStatement yielding at_).among (by decide)
  · exact (yields_returnStatement yielding at_).among (by decide)
  · exact yields_forStatement yielding at_
  · exact absurd rfl more
  · split
    · exact (yields_node rfl le_rfl fun _ => yields_andThen (yields_expression yielding)
        yields_semicolon).among (by decide)
    · exact yields_reject

theorem yields_statement (yielding : Yielding self) :
    (statement self c h).Yields (oneOf Content.statements) := by
  intro errors
  obtain ⟨more, same⟩ := statement_of_errors errors
  rw [same] at errors ⊢
  exact yields_statementBody yielding more errors

theorem yields_statements (yielding : Yielding self) {inBlock : Bool} :
    (statements self inBlock c h).Yields (many (oneOf Content.statements)) := by
  refine yields_look ?_
  split
  · exact yields_skip nil_mem_many
  · rename_i goes
    have more : c.current ≠ .endOfInput := fun ended => goes (.inl ended)
    exact (yields_progress (yields_statementBody yielding more)
      (fun _ => yielding.any (.statements inBlock) rfl trivial) yields_rejectThen).mono mul_many_le

/-- A production yields the content of its nonterminal if all that it calls behind a token does. -/
theorem yielding_production (yielding : Yielding self) : Yielding (production self) where
  yields g _ _ held asked := by
    cases g with
    | statement => exact yields_statement yielding
    | statements inBlock => exact yields_statements yielding
    | declaration inForHead => exact yields_declaration yielding asked
    | declarators => exact yields_declarators yielding
    | expression => exact yields_expression yielding
    | sequenceTail => exact yields_sequenceTail yielding
    | assignment => exact yields_assignment yielding
    | binary minimum => exact yields_binary yielding
    | binaryTail left minimum => exact yields_binaryTail yielding (held rfl)
    | unary => exact yields_unary yielding
    | suffixes callee calls => exact yields_suffixes yielding (held rfl)
    | newTarget => exact yields_newTarget yielding
    | arguments => exact yields_arguments yielding asked
    | argumentList => exact yields_argumentList yielding
    | arrayItems => exact yields_arrayItems yielding
    | objectItems => exact yields_objectItems yielding
  array closed := by simp [production, arrayItems, look, closed, skip, emit]
  object closed := by simp [production, objectItems, look, closed, skip, emit]

theorem yielding_all (n : Nat) : Yielding (Nonterminal.parser n) := by
  induction n with
  | zero => constructor <;> intros <;> exact absurd ‹_ < 0› (Nat.not_lt_zero _)
  | succ n ih => exact yielding_production ih

end Grammar

open ScriptLint.Tree (heads)

/-- The statements of a text without errors, and the trivia behind the last one. -/
theorem exists_statements {ls : List Lexeme} (errors : (programBody ls).errors = []) :
    ∃ (body : List Tree) (gap : List Lexeme), (programBody ls).out = body ++ gap.map Tree.ofLexeme ∧
      (∀ l ∈ gap, l.isTrivia = true) ∧ Derives (many (oneOf statements)) body := by
  obtain ⟨clean, -⟩ := Parser.errors_andThen.1 errors
  have derives := (Grammar.yielding_all _).any (.statements false) rfl trivial clean
  exact ⟨_, _, rfl, fun _ => Cursor.isTrivia_of_mem_trivia, derives⟩

theorem heads_programBody {ls : List Lexeme} (errors : (programBody ls).errors = []) :
    heads (programBody ls).out ∈ SyntaxKind.program.content.matches' := by
  obtain ⟨body, gap, out, trivia, derives⟩ := exists_statements errors
  rw [out, Tree.heads_append, Tree.heads_map_ofLexeme trivia, List.append_nil]
  exact derives.heads

theorem derived_programBody {ls : List Lexeme} (errors : (programBody ls).errors = []) :
    ∀ t ∈ (programBody ls).out, t.Derived := by
  obtain ⟨body, gap, out, trivia, derives⟩ := exists_statements errors
  intro t mem
  rw [out] at mem
  rcases List.mem_append.1 mem with among | behind
  · exact derives.derived t among
  · exact Tree.derived_trivia trivia t behind

/-- A parse without errors is a derivation of the grammar: its root is a program, no error is among
its nodes and tokens, and the children of every node, trivia apart, are what the grammar makes a node
of its kind from. -/
theorem parse_derived (text : Text) (clean : (parse text).errors = []) :
    (parse text).tree.kind = .program ∧ ∀ t ∈ (parse text).tree.parts, t.kind ≠ .error ∧
      match t with
      | .token kind _ => kind.isTerminal = true
      | .node kind children => heads children ∈ kind.content.matches' := by
  have errors := (errors_parse.1 clean).2
  refine ⟨rfl, fun t part => ?_⟩
  rcases List.mem_cons.1 part with rfl | below
  · exact ⟨SyntaxKind.noConfusion, heads_programBody errors⟩
  · obtain ⟨u, among, part⟩ := Tree.mem_partsOf.1 below
    have derived := (derived_programBody errors u among).of_mem_parts part
    refine ⟨derived.ne_error, ?_⟩
    cases derived with
    | token terminal => exact terminal
    | node inner content => exact content

/-- A loop over a tagged template. -/
def loopText : Text :=
  ['f', 'o', 'r', '(', 'x', ' ', 'o', 'f', ' ', 'y', Lexeme.backtick, Lexeme.backtick, ')', '{', '}']

theorem parse_derived_loopText :
    (parse loopText).errors = [] ∧ (parse loopText).tree.kind = .program ∧
      ∀ t ∈ (parse loopText).tree.parts, t.kind ≠ .error := by
  have clean : (parse loopText).errors = [] := by decide +kernel
  have derived := parse_derived loopText clean
  exact ⟨clean, derived.1, fun t part => (derived.2 t part).1⟩

end ScriptLint
