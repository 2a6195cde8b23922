import ScriptLint.Syntax.Parse
import ScriptLint.Proofs.Syntax.Opening.Expression

/-!
# How the nodes of statements start

With the statements, every production makes no node that starts with trivia if all that it calls
behind a token makes none. So, by induction on the bound of the parsers, no parser does
(`openly_all`).
-/

namespace ScriptLint

open Lexeme (Fronted)
open ScriptLint.Tree (lexemesOf opened_append opened_ofLexemes)

namespace Grammar

open ScriptLint.Parser

variable {n : Nat} {self : Nonterminal → Parser n} {c : Cursor} {h : c.length < n + 1}

theorem opens_semicolon {n : Nat} {h : c.length < n} : ((semicolon : Parser n) c h).Opens [] c := by
  refine opens_look ?_
  split
  · exact opens_bump
  split
  · exact opens_skip
  · exact opens_fail

theorem opens_declarator (openly : Openly self) : (declarator self c h).Opens [] c := by
  refine opens_node fun _ => opens_andThen (opens_look ?_) (opens_look ?_)
  · split
    · exact opens_leaf
    · exact opens_fail
  · split
    · exact opens_bumpThen fun _ _ => openly.apply .assignment rfl
    · exact opens_skip

theorem opens_declarators (openly : Openly self) : (declarators self c h).Opens [] c :=
  opens_andThen (opens_declarator openly)
    (opens_behindComma fun _ _ => openly.apply .declarators rfl)

theorem opens_declaration (openly : Openly self) {inForHead : Bool} :
    (declaration self inForHead c h).Opens [] c := by
  refine opens_node fun _ => opens_bumpThen fun _ _ =>
    opens_andThen (openly.apply .declarators rfl) ?_
  split
  · exact opens_skip
  · exact opens_semicolon

theorem opens_block (openly : Openly self) : (block self c h).Opens [] c :=
  opens_bracketed openly (.statements true) rfl

theorem opens_elsePart (openly : Openly self) {h : c.length < n} :
    (look (fun c => if c.current = .elseKeyword then andThen bump (self .statement) else skip)
      c h).Opens [] c := by
  refine opens_look ?_
  split
  · exact opens_andThen opens_bump (openly.apply .statement rfl)
  · exact opens_skip

theorem opens_ifStatement (openly : Openly self) : (ifStatement self c h).Opens [] c :=
  opens_node fun _ => opens_bumpThen fun _ _ =>
    opens_andThen opens_expect <| opens_andThen (openly.apply .expression rfl) <|
    opens_andThen opens_expect <| opens_andThen (openly.apply .statement rfl) (opens_elsePart openly)

theorem opens_returnStatement (openly : Openly self) : (returnStatement self c h).Opens [] c := by
  refine opens_node fun _ => opens_bumpThen fun _ _ =>
    opens_andThen (opens_look ?_) opens_semicolon
  split
  · exact openly.apply .expression rfl
  · exact opens_skip

theorem opens_forStart (openly : Openly self) {h : c.length < n} :
    (forStart self c h).Opens [] c := by
  refine opens_andThen opens_expect (opens_look ?_)
  split
  · exact openly.apply (.declaration true) rfl
  split
  · exact opens_skip
  · exact openly.apply .assignment rfl

theorem opens_forEnd (openly : Openly self) {h : c.length < n} : (forEnd self c h).Opens [] c :=
  opens_andThen opens_expect (openly.apply .statement rfl)

/-- An expression, unless the part of the head that it would fill is empty. -/
theorem opens_unless (openly : Openly self) {close : SyntaxKind} {h : c.length < n} :
    (look (fun c => if c.current = close then skip else self .expression) c h).Opens [] c := by
  refine opens_look ?_
  split
  · exact opens_skip
  · exact openly.apply .expression rfl

theorem opens_forStatement (openly : Openly self) (more : c.pastTrivia.rest ≠ []) :
    (forStatement self c h).Opens [] c := by
  refine opens_take more fun l d hd significant _ => ?_
  refine opens_emitThen (opened_ofLexemes _) ?_
  have start := opens_forStart openly (c := d) (h := hd)
  have opened := opened_append (opened_ofLexemes [l]) start.opened
  have fronted : Fronted (lexemesOf (.ofLexeme l :: (forStart self d hd).out) ++
      (forStart self d hd).next.rest) := by
    simpa [Fronted, Tree.lexemesOf_cons_ofLexeme] using significant
  refine opens_capture start (opens_look ?_)
  split
  · exact opens_wrap opened fronted (opens_andThen (opens_bumpAs rfl)
      (opens_andThen (openly.apply .assignment rfl) (opens_forEnd openly)))
  split
  · exact opens_wrap opened fronted (opens_andThen opens_bump
      (opens_andThen (openly.apply .expression rfl) (opens_forEnd openly)))
  · exact opens_wrap opened fronted (opens_andThen opens_expect
      (opens_andThen (opens_andThen (opens_unless openly) opens_expect)
        (opens_andThen (opens_unless openly) (opens_forEnd openly))))

theorem opens_statementBody (openly : Openly self) : (statementBody self c h).Opens [] c := by
  refine opens_look ?_
  generalize found : c.current = kind
  split
  iterate 3 exact opens_declaration openly
  · exact opens_leaf
  · exact opens_block openly
  · exact opens_ifStatement openly
  · exact opens_returnStatement openly
  · exact opens_forStatement openly (more_of_current found (by simp))
  · exact opens_skip
  · split
    · exact opens_node fun _ => opens_andThen (opens_expression openly) opens_semicolon
    · exact opens_reject

theorem opens_statement (openly : Openly self) : (statement self c h).Opens [] c := by
  simp only [statement]
  split
  · exact (opens_statementBody openly).append opens_reject _
  · exact opens_statementBody openly

theorem opens_statements (openly : Openly self) {inBlock : Bool} :
    (statements self inBlock c h).Opens [] c := by
  refine opens_look ?_
  split
  · exact opens_skip
  · exact opens_progress (opens_statementBody openly)
      (fun _ _ => openly.apply (.statements inBlock) rfl)
      fun _ _ => opens_rejectThen fun _ _ => openly.apply (.statements inBlock) rfl

/-- A production makes no node that starts with trivia if all that it calls behind a token makes
none. -/
theorem openly_production (openly : Openly self) : Openly (production self) := by
  intro g c h opened fronted
  cases g with
  | suffixes callee calls => exact opens_suffixes openly opened (fronted rfl)
  | binaryTail left minimum => exact opens_binaryTail openly opened (fronted rfl)
  | statement => exact opens_statement openly
  | statements inBlock => exact opens_statements openly
  | declaration inForHead => exact opens_declaration openly
  | declarators => exact opens_declarators openly
  | expression => exact opens_expression openly
  | sequenceTail => exact opens_sequenceTail openly
  | assignment => exact opens_assignment openly
  | binary minimum => exact opens_binary openly
  | unary => exact opens_unary openly
  | newTarget => exact opens_newTarget openly
  | arguments => exact opens_arguments openly
  | argumentList => exact opens_argumentList openly
  | arrayItems => exact opens_arrayItems openly
  | objectItems => exact opens_objectItems openly

theorem openly_all (n : Nat) : Openly (Nonterminal.parser n) := by
  induction n with
  | zero => exact fun _ _ h => absurd h (Nat.not_lt_zero _)
  | succ n ih => exact openly_production ih

end Grammar

/-- The trees of a program, errors or not. -/
theorem opened_programBody (ls : List Lexeme) : ∀ t ∈ (programBody ls).out, t.Opened :=
  (Parser.opens_andThen ((Grammar.openly_all _).apply (.statements false) rfl)
    Parser.opens_trivia).opened

end ScriptLint
