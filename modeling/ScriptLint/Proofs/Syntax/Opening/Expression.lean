import ScriptLint.Proofs.Syntax.Spelling.Expression
import ScriptLint.Proofs.Syntax.Opening

/-!
# How the nodes of expressions start

A production of the expression grammar makes no node that starts with trivia if the parsers make none
that it may call behind a token (`Openly`).
-/

namespace ScriptLint

open Lexeme (Fronted)
open ScriptLint.Tree (lexemesOf opened_append opened_ofLexemes opened_node)

namespace Grammar

open ScriptLint.Parser

variable {n : Nat} {self : Nonterminal → Parser n} {c : Cursor} {h : c.length < n + 1}

/-- Whether the parsers of all nonterminals make no node that starts with trivia. Those that go on
behind trees read before are handed trees that are fronted. -/
def Openly (self : Nonterminal → Parser n) : Prop :=
  ∀ g c h, (∀ t ∈ g.held, t.Opened) → (g.isTail = true → Fronted (lexemesOf g.held ++ c.rest)) →
    (self g c h).Opens g.held c

theorem Openly.apply (openly : Openly self) (g : Nonterminal) {h : c.length < n}
    (plain : g.isTail = false) : (self g c h).Opens [] c := by
  have none := Nonterminal.held_of_not_tail plain
  have opens := openly g c h (by simp [none]) (by simp [plain])
  rwa [none] at opens

theorem opens_leaf {kind : SyntaxKind} {n : Nat} {h : c.length < n} :
    ((leaf kind : Parser n) c h).Opens [] c :=
  opens_node fun _ => opens_bump

theorem opens_nameAs {n : Nat} {h : c.length < n} :
    (node .identifier (bumpAs .ident : Parser n) c h).Opens [] c :=
  opens_node fun _ => opens_bumpAs rfl

theorem opens_propertyName {n : Nat} {h : c.length < n} :
    ((propertyName : Parser n) c h).Opens [] c := by
  refine opens_look ?_
  split
  · exact opens_nameAs
  · exact opens_fail

theorem opens_argumentsBody (openly : Openly self) {h : c.length < n} :
    (argumentsBody self c h).Opens [] c :=
  opens_andThen (openly.apply .argumentList rfl) opens_expect

theorem opens_arguments (openly : Openly self) : (arguments self c h).Opens [] c :=
  opens_node fun _ => opens_bumpThen fun _ _ => opens_argumentsBody openly

/-- A tail goes on behind a node around what was read before. -/
theorem opens_tail (openly : Openly self) {kind : SyntaxKind} {held ts : List Tree}
    (tail : List Tree → Nonterminal) (tails : ∀ ts, (tail ts).held = ts)
    (opened : ∀ t ∈ ts, t.Opened) (same : lexemesOf ts = lexemesOf held) {h : c.length < n}
    (fronted : Fronted (lexemesOf held ++ c.rest)) :
    (self (tail [.node kind ts]) c h).Opens held c := by
  have around := opened_node kind (same ▸ fronted.left) opened
  have opens := openly (tail [.node kind ts]) c h (by rwa [tails]) fun _ => by
    rwa [tails, Tree.lexemesOf_node, same]
  rw [tails] at opens
  exact opens.congr (by rw [Tree.lexemesOf_node, same])

theorem opened_extend {held : List Tree} (opened : ∀ t ∈ held, t.Opened) {gap : List Lexeme}
    {ts : List Tree} (more : ∀ t ∈ ts, t.Opened) : ∀ t ∈ held ++ gap.map Tree.ofLexeme ++ ts, t.Opened :=
  opened_append (opened_append opened (opened_ofLexemes gap)) more

/-- A node around trees held, the next token and what `p` reads behind it, and a tail behind that. -/
theorem opens_extend (openly : Openly self) {held : List Tree} (kindOf : Lexeme → SyntaxKind)
    {p : Parser n} (tail : List Tree → Nonterminal) (tails : ∀ ts, (tail ts).held = ts)
    (opened : ∀ t ∈ held, t.Opened) (fronted : Fronted (lexemesOf held ++ c.rest))
    (more : c.pastTrivia.rest ≠ []) (first : ∀ d h, (p d h).Opens [] d) :
    (take (fun trivia l => capture p fun out =>
      self (tail [.node (kindOf l) (held ++ trivia ++ .ofLexeme l :: out)])) c h).Opens held c := by
  refine opens_take more fun l d hd _ step => opens_capture (first d hd) ?_
  refine opens_tail openly tail tails ?_ (by simp) ((first d hd).behind (step fronted))
  exact opened_extend opened (opened_append (opened_ofLexemes [l]) (first d hd).opened)

/-- The callee that was read before goes into the node of the first suffix. -/
theorem opens_suffixes (openly : Openly self) {callee : List Tree} {calls : Bool}
    (opened : ∀ t ∈ callee, t.Opened) (fronted : Fronted (lexemesOf callee ++ c.rest)) :
    (suffixes self callee calls c h).Opens callee c := by
  refine opens_look ?_
  generalize found : c.current = kind
  split
  · exact opens_extend openly _ (.suffixes · calls) (fun _ => rfl) opened fronted
      (more_of_current found (by simp)) fun _ _ => opens_propertyName
  · exact opens_extend openly _ (.suffixes · calls) (fun _ => rfl) opened fronted
      (more_of_current found (by simp)) fun _ _ =>
        opens_andThen (openly.apply .expression rfl) opens_expect
  · refine opens_take (more_of_current found (by simp)) fun l d hd significant step => ?_
    have template : Fronted (lexemesOf [.ofLexeme l]) := by
      simpa [Fronted, Tree.lexemesOf_cons_ofLexeme] using significant
    refine opens_tail openly (.suffixes · calls) (fun _ => rfl) ?_ (by simp) (step fronted)
    exact opened_extend opened (opened_node _ template (opened_ofLexemes [l]))
  · split
    · refine opens_take (more_of_current found (by simp)) fun l d hd significant step => ?_
      have inner := opens_argumentsBody openly (c := d) (h := hd)
      have list : Fronted (lexemesOf (.ofLexeme l :: (argumentsBody self d hd).out)) := by
        simpa [Fronted, Tree.lexemesOf_cons_ofLexeme] using significant
      refine opens_capture inner (opens_tail openly (.suffixes · calls) (fun _ => rfl) ?_
        (by simp) (inner.behind (step fronted)))
      exact opened_extend opened (opened_node _ list
        (opened_append (opened_ofLexemes [l]) inner.opened))
    · exact opens_emit opened
  · exact opens_emit opened

theorem opens_newExpression (openly : Openly self) : (newExpression self c h).Opens [] c := by
  refine opens_node fun _ => opens_bumpThen fun _ _ =>
    opens_andThen (openly.apply .newTarget rfl) (opens_look ?_)
  split
  · exact openly.apply .arguments rfl
  · exact opens_skip

theorem opens_property (openly : Openly self) : (property self c h).Opens [] c := by
  refine opens_node fun _ => opens_andThen (opens_look ?_) (opens_look ?_)
  · split
    · exact opens_leaf
    split
    · exact opens_nameAs
    · exact opens_fail
  · split
    · exact opens_bumpThen fun _ _ => openly.apply .assignment rfl
    · exact opens_skip

theorem opens_separator {close : SyntaxKind} {n : Nat} {h : c.length < n} :
    ((separator close : Parser n) c h).Opens [] c := by
  refine opens_look ?_
  split
  · exact opens_skip
  · exact opens_expect

theorem opens_objectItems (openly : Openly self) : (objectItems self c h).Opens [] c := by
  refine opens_look ?_
  generalize c.current = found
  split
  · exact opens_skip
  · exact opens_skip
  · exact opens_progress (opens_andThen (opens_property openly) opens_separator)
      (fun _ _ => openly.apply .objectItems rfl) fun _ _ => opens_skip

/-- Something in brackets. -/
theorem opens_bracketed (openly : Openly self) {kind close : SyntaxKind} (g : Nonterminal)
    (plain : g.isTail = false) :
    (node kind (bumpThen (andThen (self g) (expect close))) c h).Opens [] c :=
  opens_node fun _ => opens_bumpThen fun _ _ => opens_andThen (openly.apply g plain) opens_expect

theorem opens_primary (openly : Openly self) : (primary self c h).Opens [] c := by
  refine opens_look ?_
  generalize c.current = found
  split
  iterate 8 exact opens_leaf
  · exact opens_bracketed openly .expression rfl
  · exact opens_bracketed openly .arrayItems rfl
  · exact opens_bracketed openly .objectItems rfl
  · split
    · exact opens_fail
    · exact opens_reject

theorem opens_callee (openly : Openly self) : (callee self c h).Opens [] c := by
  refine opens_look ?_
  split
  · exact opens_newExpression openly
  · exact opens_primary openly

theorem opens_newTarget (openly : Openly self) : (newTarget self c h).Opens [] c :=
  opens_marked (fun _ => opens_callee openly) fun _ _ _ opened fronted =>
    opens_suffixes openly opened fronted

theorem opens_call (openly : Openly self) : (call self c h).Opens [] c :=
  opens_marked (fun _ => opens_callee openly) fun _ _ _ opened fronted =>
    opens_suffixes openly opened fronted

theorem opens_unary (openly : Openly self) : (unary self c h).Opens [] c := by
  refine opens_look ?_
  split
  · exact opens_node fun _ => opens_bumpThen fun _ _ => openly.apply .unary rfl
  split
  · exact opens_node fun _ => opens_bumpThen fun _ _ => openly.apply .unary rfl
  · refine opens_marked (fun _ => opens_call openly) fun out d hd opened fronted => opens_look ?_
    split
    · exact opens_wrap opened fronted opens_bump
    · exact opens_emit opened

theorem opens_binaryTail (openly : Openly self) {left : List Tree} {minimum : Nat}
    (opened : ∀ t ∈ left, t.Opened) (fronted : Fronted (lexemesOf left ++ c.rest)) :
    (binaryTail self left minimum c h).Opens left c := by
  refine opens_look ?_
  cases known : c.current.bindingPower? with
  | none => exact opens_emit opened
  | some power =>
    dsimp only
    split
    · exact opens_emit opened
    · have more : c.current ≠ .endOfInput := by
        intro ended
        simp [ended, SyntaxKind.bindingPower?] at known
      exact opens_extend openly (fun l => l.kind.binaryNode) (.binaryTail · minimum) (fun _ => rfl) opened fronted
        (Cursor.rest_ne_nil_of_current more) fun _ _ => openly.apply (.binary (power + 1)) rfl

theorem opens_binary (openly : Openly self) {minimum : Nat} :
    (binary self minimum c h).Opens [] c :=
  opens_marked (fun _ => opens_unary openly) fun _ _ _ opened fronted =>
    opens_binaryTail openly opened fronted

theorem opens_conditional (openly : Openly self) : (conditional self c h).Opens [] c := by
  refine opens_marked (fun _ => opens_binary openly) fun out d hd opened fronted => opens_look ?_
  split
  · exact opens_wrap opened fronted (opens_bumpThen fun _ _ =>
      opens_andThen (openly.apply .assignment rfl)
        (opens_andThen opens_expect (openly.apply .assignment rfl)))
  · exact opens_emit opened

theorem opens_assignment (openly : Openly self) : (assignment self c h).Opens [] c := by
  refine opens_marked (fun _ => opens_conditional openly) fun out d hd opened fronted =>
    opens_look ?_
  split
  · exact opens_wrap opened fronted (opens_bumpThen fun _ _ => openly.apply .assignment rfl)
  · exact opens_emit opened

/-- What follows behind a comma, if there is one. -/
theorem opens_behindComma {p : Parser n} (second : ∀ d h, (p d h).Opens [] d) :
    (look (fun c => if c.current = .comma then bumpThen p else skip) c h).Opens [] c := by
  refine opens_look ?_
  split
  · exact opens_bumpThen second
  · exact opens_skip

theorem opens_arrayItems (openly : Openly self) : (arrayItems self c h).Opens [] c := by
  refine opens_look ?_
  generalize c.current = found
  split
  · exact opens_skip
  · exact opens_skip
  · exact opens_bumpThen fun _ _ => openly.apply .arrayItems rfl
  · exact opens_progress (opens_andThen (opens_assignment openly) opens_separator)
      (fun _ _ => openly.apply .arrayItems rfl) fun _ _ => opens_skip

theorem opens_argumentList (openly : Openly self) : (argumentList self c h).Opens [] c := by
  refine opens_look ?_
  generalize c.current = found
  split
  · exact opens_skip
  · exact opens_skip
  · exact opens_andThen (opens_assignment openly)
      (opens_behindComma fun _ _ => openly.apply .argumentList rfl)

theorem opens_sequenceTail (openly : Openly self) : (sequenceTail self c h).Opens [] c :=
  opens_behindComma fun _ _ =>
    opens_andThen (openly.apply .assignment rfl) (openly.apply .sequenceTail rfl)

theorem opens_expression (openly : Openly self) : (expression self c h).Opens [] c := by
  refine opens_marked (fun _ => opens_assignment openly) fun out d hd opened fronted =>
    opens_look ?_
  split
  · exact opens_wrap opened fronted (opens_sequenceTail openly)
  · exact opens_emit opened

end Grammar

end ScriptLint
