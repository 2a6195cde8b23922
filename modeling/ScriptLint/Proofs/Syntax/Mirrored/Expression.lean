import ScriptLint.Proofs.Syntax.Spelling.Expression
import ScriptLint.Proofs.Syntax.Neat.Expression
import ScriptLint.Proofs.Syntax.Mirrors

/-!
# Expressions parse alike

Two runs of a production of the expression grammar mirror each other if the runs do of the parsers
that it may call behind a token (`Mirroring`).
-/

namespace ScriptLint

open ScriptLint.Tree (tagsOf bareOf)
open Lexeme (Anywhere)
open Parsed (Anything Untagged)

/-- Whether two nonterminals are one, handed trees that differ in trivia and spelling only. -/
inductive Nonterminal.Alike (spell : Lexeme → Lexeme) : Nonterminal → Nonterminal → Prop
  | same {g : Nonterminal} (none : g.held = []) : Alike spell g g
  | suffixes {callee callee' : List Tree} {calls : Bool}
      (same : bareOf id callee' = bareOf spell callee) :
      Alike spell (.suffixes callee calls) (.suffixes callee' calls)
  | binaryTail {left left' : List Tree} {minimum : Nat}
      (same : bareOf id left' = bareOf spell left) :
      Alike spell (.binaryTail left minimum) (.binaryTail left' minimum)

/-- The marks that may come behind a nonterminal: a statement looks at the line break behind it. -/
def Nonterminal.Behind : Nonterminal → List Bool → Prop
  | .statement | .statements _ | .declaration false => Untagged
  | _ => Anything

namespace Grammar

open ScriptLint.Parser

variable {n m : Nat} {self : Nonterminal → Parser n} {self' : Nonterminal → Parser m}
  {spell : Lexeme → Lexeme} {Behind : List Bool → Prop} {c : Cursor} {h : c.length < n + 1}

/-- Whether the runs of all parsers mirror each other, which read faithfully and hand out neat
trees. -/
structure Mirroring (spell : Lexeme → Lexeme) (all : Nonterminal → Parser n)
    (all' : Nonterminal → Parser m) : Prop where
  respells : Lexeme.Respells spell
  neatly : Neatly all
  faithfully : Faithfully all
  faithfully' : Faithfully all'
  mirrors : ∀ {g g'}, Nonterminal.Alike spell g g' → ∀ {c h},
    (all g c h).Mirrors spell g.Behind (tagsOf g.held) c (all' g')

theorem Mirroring.apply (both : Mirroring spell self self') (g : Nonterminal) (none : g.held = [])
    {h : c.length < n} : (self g c h).Mirrors spell g.Behind [] c (self' g) := by
  have mirrors := both.mirrors (.same none) (c := c) (h := h)
  rwa [none] at mirrors

/-- Most nonterminals admit anything behind them. -/
theorem Mirroring.any (both : Mirroring spell self self') (g : Nonterminal) (none : g.held = [])
    (free : g.Behind = Anything) {h : c.length < n} :
    (self g c h).Mirrors spell Behind [] c (self' g) :=
  (both.apply g none).mono fun _ _ => by rw [free]; trivial

theorem mirrors_leaf (respells : Lexeme.Respells spell) {kind : SyntaxKind} {n : Nat}
    {h : c.length < n} (plain : kind ≠ .taggedTemplateExpression) :
    ((leaf kind : Parser n) c h).Mirrors spell Behind [] c (leaf kind : Parser m) :=
  mirrors_node plain fun _ => mirrors_bump respells

theorem mirrors_nameAs (respells : Lexeme.Respells spell) {n : Nat} {h : c.length < n}
    (names : c.current.namesProperty = true) :
    (node .identifier (bumpAs .ident : Parser n) c h).Mirrors spell Behind [] c
      (node .identifier (bumpAs .ident) : Parser m) := by
  refine mirrors_node (by decide) fun _ => mirrors_bumpAs rfl fun l next => ?_
  have kind := Cursor.current_of_significant? next
  rw [Cursor.current_pastTrivia] at kind
  rw [respells.word l (kind ▸ names), respells.word _ rfl]

theorem mirrors_propertyName (respells : Lexeme.Respells spell) {n : Nat} {h : c.length < n} :
    ((propertyName : Parser n) c h).Mirrors spell Behind [] c (propertyName : Parser m) := by
  refine mirrors_look respells fun d faces => ?_
  rw [faces.current respells]
  split
  · exact mirrors_nameAs respells ‹_›
  · exact mirrors_fail

theorem mirrors_argumentsBody (both : Mirroring spell self self') {h : c.length < n} :
    (argumentsBody self c h).Mirrors spell Behind [] c (argumentsBody self') :=
  mirrors_andThen (both.any .argumentList rfl rfl) fun _ => mirrors_expect both.respells

theorem mirrors_arguments (both : Mirroring spell self self') :
    (arguments self c h).Mirrors spell Behind [] c (arguments self') :=
  mirrors_node (by decide) fun _ =>
    mirrors_bumpThen both.respells fun _ _ => mirrors_argumentsBody both

/-- A token behind trees held, with what is read behind it, goes into a node with them. -/
theorem mirrors_extend (respells : Lexeme.Respells spell) {kind : SyntaxKind}
    {p : Parser n} {p' : Parser m} {held held' : List Tree} (goOn : List Tree → Parser n)
    (goOn' : List Tree → Parser m) (kindOf : Lexeme → SyntaxKind)
    (more : c.pastTrivia.rest ≠ []) (same : bareOf id held' = bareOf spell held)
    (kinds : ∀ l, c.current = l.kind → kindOf l = kind ∧ kindOf (spell l) = kind)
    (plain : kind ≠ .taggedTemplateExpression)
    (first : ∀ d h, (p d h).Mirrors spell Anything [] d p')
    (second : ∀ ts ts' d h, bareOf id ts' = bareOf spell ts →
      (goOn ts d h).Mirrors spell Behind (tagsOf ts) d (goOn' ts')) :
    (take (fun trivia l => capture p fun out =>
        goOn [.node (kindOf l) (held ++ trivia ++ .ofLexeme l :: out)]) c h).Mirrors spell Behind
      (tagsOf held) c
      (take fun trivia l => capture p' fun out =>
        goOn' [.node (kindOf l) (held' ++ trivia ++ .ofLexeme l :: out)]) := by
  refine mirrors_take false more fun l d hd at_ significant ts trivia => ?_
  refine mirrors_capture respells (first _ _) fun _ out' sameOut => ?_
  have here : ∀ l ∈ c.trivia, l.isTrivia = true := fun _ => Cursor.isTrivia_of_mem_trivia
  have tags : tagsOf [.node kind (held ++ c.trivia.map Tree.ofLexeme ++
      .ofLexeme l :: (p d hd).out)] = tagsOf held ++ [false] ++ tagsOf (p d hd).out := by
    rw [Tree.tagsOf_node plain, Tree.tagsOf_append, Tree.tagsOf_append, Tree.tagsOf_trivia here,
      Tree.tagsOf_cons significant, List.append_nil, List.append_cons]
  rw [← tags, (kinds l at_).1, (kinds l at_).2]
  refine second _ _ _ _ ?_
  simp only [Tree.bareOf_node, Tree.bareOf_append, Tree.bareOf_trivia here,
    Tree.bareOf_trivia trivia, Tree.bareOf_cons significant,
    Tree.bareOf_cons (respells.significant significant), same, sameOut, id]

theorem mirrors_suffixes (both : Mirroring spell self self') {callee callee' : List Tree}
    {calls : Bool} (same : bareOf id callee' = bareOf spell callee) :
    (suffixes self callee calls c h).Mirrors spell Anything (tagsOf callee) c
      (suffixes self' callee' calls) := by
  refine mirrors_look both.respells fun d faces => ?_
  rw [faces.current both.respells]
  have goOn {ts ts' : List Tree} {d : Cursor} {hd : d.length < n}
      (same : bareOf id ts' = bareOf spell ts) :
      (self (.suffixes ts calls) d hd).Mirrors spell Anything (tagsOf ts) d
        (self' (.suffixes ts' calls)) :=
    both.mirrors (.suffixes same)
  have here : ∀ l ∈ c.trivia, l.isTrivia = true := fun _ => Cursor.isTrivia_of_mem_trivia
  generalize found : c.current = kind
  split
  · refine mirrors_extend both.respells (fun ts => self (.suffixes ts calls))
      (fun ts => self' (.suffixes ts calls)) (fun _ => .memberExpression)
      (more_of_current found (by simp)) same (fun _ _ => ⟨rfl, rfl⟩) (by decide) ?_ ?_
    · exact fun _ _ => mirrors_propertyName both.respells
    · exact fun _ _ _ _ same => goOn same
  · refine mirrors_extend both.respells (fun ts => self (.suffixes ts calls))
      (fun ts => self' (.suffixes ts calls)) (fun _ => .memberExpression)
      (more_of_current found (by simp)) same (fun _ _ => ⟨rfl, rfl⟩) (by decide) ?_ ?_
    · intro _ _
      exact mirrors_andThen (both.any .expression rfl rfl) fun _ => mirrors_expect both.respells
    · exact fun _ _ _ _ same => goOn same
  · refine mirrors_take true (more_of_current found (by simp)) fun l d hd at_ plain ts trivia => ?_
    have template : l.kind = .template := (found ▸ at_).symm
    have tags := Tree.tags_tagged callee l.text here
    rw [← template, ← Tree.tagsOf_singleton] at tags
    rw [← tags]
    refine goOn ?_
    simp only [Tree.bareOf_node, Tree.bareOf_append, Tree.bareOf_trivia here,
      Tree.bareOf_trivia trivia, Tree.bareOf_ofLexeme plain,
      Tree.bareOf_ofLexeme (both.respells.significant plain), same, id]
  · split
    · refine mirrors_take false (more_of_current found (by simp)) fun l d hd at_ plain ts trivia => ?_
      refine mirrors_capture both.respells (mirrors_argumentsBody both) fun _ out' sameOut => ?_
      have tags : tagsOf [.node .callExpression (callee ++ c.trivia.map Tree.ofLexeme ++
          [.node .arguments (.ofLexeme l :: (argumentsBody self d hd).out)])] =
          tagsOf callee ++ [false] ++ tagsOf (argumentsBody self d hd).out := by
        rw [Tree.tagsOf_node (by decide), Tree.tagsOf_append, Tree.tagsOf_append,
          Tree.tagsOf_node (by decide), Tree.tagsOf_trivia here, Tree.tagsOf_cons plain,
          List.append_nil, List.append_cons]
      rw [← tags]
      refine goOn ?_
      simp only [Tree.bareOf_node, Tree.bareOf_append, Tree.bareOf_trivia here,
        Tree.bareOf_trivia trivia, Tree.bareOf_cons plain,
        Tree.bareOf_cons (both.respells.significant plain), same, sameOut, id]
    · exact mirrors_emit same
  · exact mirrors_emit same

theorem mirrors_newExpression (both : Mirroring spell self self') :
    (newExpression self c h).Mirrors spell Behind [] c (newExpression self') := by
  refine mirrors_node (by decide) fun _ => mirrors_bumpThen both.respells fun d hd => ?_
  refine mirrors_andThen (both.any .newTarget rfl rfl) fun _ => ?_
  refine mirrors_look both.respells fun e faces => ?_
  rw [faces.current both.respells]
  split
  · exact both.any .arguments rfl rfl
  · exact mirrors_skip

theorem mirrors_property (both : Mirroring spell self self') :
    (property self c h).Mirrors spell Behind [] c (property self') := by
  refine mirrors_node (by decide) fun _ => mirrors_andThen
    (mirrors_look both.respells fun d faces => ?_) fun _ => mirrors_look both.respells fun d faces => ?_
  · rw [faces.current both.respells]
    split
    · exact mirrors_leaf both.respells (by decide)
    · split
      · exact mirrors_nameAs both.respells ‹_›
      · exact mirrors_fail
  · rw [faces.current both.respells]
    split
    · exact mirrors_bumpThen both.respells fun _ _ => both.any .assignment rfl rfl
    · exact mirrors_skip

theorem mirrors_separator (respells : Lexeme.Respells spell) {close : SyntaxKind} {n : Nat}
    {h : c.length < n} :
    ((separator close : Parser n) c h).Mirrors spell Behind [] c (separator close : Parser m) := by
  refine mirrors_look respells fun d faces => ?_
  rw [faces.current respells]
  split
  · exact mirrors_skip
  · exact mirrors_expect respells

/-- What is read faithfully and hands out something whole reads a token. -/
theorem reads_of_whole {n : Nat} {r : Parsed n} (faithful : r.Faithful Anywhere [] c)
    (whole : r.IsWhole .semicolon) (errors : r.errors = []) :
    r.next.length < c.length ∧ tagsOf r.out ≠ [] := by
  have ends := (whole errors).ends
  refine ⟨?_, Tree.tagsOf_ne_nil ends⟩
  obtain ⟨ls, reads, spells⟩ := faithful.reads
  have some : ls ≠ [] := by
    rintro rfl
    have leaves := spells [] trivial
    cases placed : Tree.placedAll [] r.out with
    | nil =>
      obtain ⟨l, last, -⟩ := ends
      rw [← Tree.map_placedAll [], placed] at last
      cases last
    | cons leaf rest =>
      rw [placed] at leaves
      cases leaves
  have := List.length_pos_iff.2 some
  simp only [Cursor.length, reads.1, List.length_append]
  omega

theorem moves_of_faithful {n : Nat} {r : Parsed n} (faithful : r.Faithful Anywhere [] c) :
    ∃ ls, c.Reads ls r.next :=
  faithful.reads.imp fun _ reads => reads.1

/-- An item of a list with its separator, and the list behind it. -/
theorem mirrors_items (both : Mirroring spell self self') {g : Nonterminal} {close : SyntaxKind}
    {p : Parser (n + 1)} {p' : Parser (m + 1)} (none : g.held = []) (free : g.Behind = Anything)
    (item : (p c h).Mirrors spell Anything [] c p') (whole : (p c h).IsWhole .semicolon)
    (faithful : (p c h).Faithful Anywhere [] c)
    (faithful' : ∀ d h, (p' d h).Faithful Anywhere [] d) :
    (progress (andThen p (separator close)) (self g) skip c h).Mirrors spell Behind [] c
      (progress (andThen p' (separator close)) (self' g) skip) := by
  refine mirrors_progress Anything
    (mirrors_andThen item fun _ => mirrors_separator both.respells) ?_ ?_ ?_ ?_
  · exact reads_of_whole (faithful_andThen faithful faithful_separator)
      (isWhole_andThen whole fun _ => isNeat_separator)
  · exact fun d hd => moves_of_faithful (faithful_andThen (faithful' d hd) faithful_separator)
  · exact fun _ _ => both.any g none free
  · exact fun _ _ _ _ => trivial

theorem mirrors_objectItems (both : Mirroring spell self self') :
    (objectItems self c h).Mirrors spell Behind [] c (objectItems self') := by
  refine mirrors_look both.respells fun d faces => ?_
  rw [faces.current both.respells]
  generalize c.current = found
  split
  · exact mirrors_skip
  · exact mirrors_skip
  · exact mirrors_items both rfl rfl (mirrors_property both)
      (isWhole_property both.neatly c.ready_semicolon)
      (faithful_property both.faithfully) fun _ _ => faithful_property both.faithfully'

theorem mirrors_bracketed (both : Mirroring spell self self') {g : Nonterminal}
    {kind close : SyntaxKind} (none : g.held = []) (free : g.Behind = Anything)
    (plain : kind ≠ .taggedTemplateExpression) :
    (node kind (bumpThen (andThen (self g) (expect close))) c h).Mirrors spell Behind [] c
      (node kind (bumpThen (andThen (self' g) (expect close)))) :=
  mirrors_node plain fun _ => mirrors_bumpThen both.respells fun _ _ =>
    mirrors_andThen (both.any g none free) fun _ => mirrors_expect both.respells

theorem mirrors_primary (both : Mirroring spell self self') :
    (primary self c h).Mirrors spell Behind [] c (primary self') := by
  refine mirrors_look both.respells fun d faces => ?_
  rw [faces.current both.respells]
  generalize c.current = found
  split
  iterate 8 exact mirrors_leaf both.respells (by decide)
  iterate 3 exact mirrors_bracketed both rfl rfl (by decide)
  · split
    · exact mirrors_fail
    · exact mirrors_reject

theorem mirrors_callee (both : Mirroring spell self self') :
    (callee self c h).Mirrors spell Behind [] c (callee self') := by
  refine mirrors_look both.respells fun d faces => ?_
  rw [faces.current both.respells]
  split
  · exact mirrors_newExpression both
  · exact mirrors_primary both

theorem mirrors_newTarget (both : Mirroring spell self self') :
    (newTarget self c h).Mirrors spell Anything [] c (newTarget self') :=
  mirrors_marked both.respells (fun _ => mirrors_callee both) fun _ _ _ _ same =>
    mirrors_suffixes both same

theorem mirrors_call (both : Mirroring spell self self') :
    (call self c h).Mirrors spell Anything [] c (call self') :=
  mirrors_marked both.respells (fun _ => mirrors_callee both) fun _ _ _ _ same =>
    mirrors_suffixes both same

theorem mirrors_operand (both : Mirroring spell self self') {kind : SyntaxKind}
    (plain : kind ≠ .taggedTemplateExpression) :
    (node kind (bumpThen (self .unary)) c h).Mirrors spell Behind [] c
      (node kind (bumpThen (self' .unary))) :=
  mirrors_node plain fun _ => mirrors_bumpThen both.respells fun _ _ => both.any .unary rfl rfl

/-- An operator behind an operand is one only on the same line. -/
theorem mirrors_update (respells : Lexeme.Respells spell) {n : Nat} {h : c.length < n}
    {operand operand' : List Tree} (same : bareOf id operand' = bareOf spell operand) :
    (look (fun c => if c.current.isUpdateOperator && ! c.atLineBreak
      then wrap .updateExpression operand bump else (emit operand : Parser n)) c h).Mirrors spell
        Behind (tagsOf operand) c
      (look fun c => if c.current.isUpdateOperator && ! c.atLineBreak
        then wrap .updateExpression operand' bump else (emit operand' : Parser m)) := by
  refine mirrors_ask respells
    (fun found broken => if found.isUpdateOperator && ! broken
      then wrap .updateExpression operand bump else emit operand)
    (fun found broken => if found.isUpdateOperator && ! broken
      then wrap .updateExpression operand' bump else emit operand') ?_ ?_
  · split
    · exact mirrors_wrap (by decide) same (mirrors_bump respells)
    · exact mirrors_emit same
  · cases operator : c.current.isUpdateOperator with
    | false => exact .inl fun _ => rfl
    | true =>
      refine .inr ⟨?_, ?_⟩ <;> intro at_ <;> rw [at_] at operator <;> cases operator

theorem mirrors_unary (both : Mirroring spell self self') :
    (unary self c h).Mirrors spell Anything [] c (unary self') := by
  refine mirrors_look both.respells fun d faces => ?_
  rw [faces.current both.respells]
  split
  · exact mirrors_operand both (by decide)
  split
  · exact mirrors_operand both (by decide)
  · exact mirrors_marked both.respells (fun _ => mirrors_call both) fun _ _ _ _ same =>
      mirrors_update both.respells same

theorem mirrors_binaryTail (both : Mirroring spell self self') {left left' : List Tree}
    {minimum : Nat} (same : bareOf id left' = bareOf spell left) :
    (binaryTail self left minimum c h).Mirrors spell Anything (tagsOf left) c
      (binaryTail self' left' minimum) := by
  refine mirrors_look both.respells fun d faces => ?_
  rw [faces.current both.respells]
  cases known : c.current.bindingPower? with
  | none => exact mirrors_emit same
  | some power =>
    have more : c.current ≠ .endOfInput := by
      intro ended
      simp [ended, SyntaxKind.bindingPower?] at known
    have kinds : ∀ l : Lexeme, c.current = l.kind →
        l.kind.binaryNode = c.current.binaryNode ∧
          (spell l).kind.binaryNode = c.current.binaryNode :=
      fun l at_ => ⟨by rw [at_], by rw [both.respells.kind, at_]⟩
    dsimp only
    split
    · exact mirrors_emit same
    · refine mirrors_extend both.respells (fun ts => self (.binaryTail ts minimum))
        (fun ts => self' (.binaryTail ts minimum)) (fun l => l.kind.binaryNode)
        (Cursor.rest_ne_nil_of_current more) same kinds ?_ ?_ ?_
      · unfold SyntaxKind.binaryNode
        split <;> decide
      · exact fun _ _ => both.any (.binary (power + 1)) rfl rfl
      · exact fun _ _ _ _ same => both.mirrors (.binaryTail same)

theorem mirrors_binary (both : Mirroring spell self self') {minimum : Nat} :
    (binary self minimum c h).Mirrors spell Anything [] c (binary self' minimum) :=
  mirrors_marked both.respells (fun _ => mirrors_unary both) fun _ _ _ _ same =>
    mirrors_binaryTail both same

theorem mirrors_conditional (both : Mirroring spell self self') :
    (conditional self c h).Mirrors spell Anything [] c (conditional self') := by
  refine mirrors_marked both.respells (fun _ => mirrors_binary both) fun _ _ d _ same => ?_
  refine mirrors_look both.respells fun e faces => ?_
  rw [faces.current both.respells]
  split
  · refine mirrors_wrap (by decide) same (mirrors_bumpThen both.respells fun _ _ => ?_)
    exact mirrors_andThen (both.any .assignment rfl rfl) fun _ =>
      mirrors_andThen (mirrors_expect both.respells) fun _ => both.any .assignment rfl rfl
  · exact mirrors_emit same

theorem mirrors_assignment (both : Mirroring spell self self') :
    (assignment self c h).Mirrors spell Anything [] c (assignment self') := by
  refine mirrors_marked both.respells (fun _ => mirrors_conditional both) fun _ _ d _ same => ?_
  refine mirrors_look both.respells fun e faces => ?_
  rw [faces.current both.respells]
  split
  · exact mirrors_wrap (by decide) same
      (mirrors_bumpThen both.respells fun _ _ => both.any .assignment rfl rfl)
  · exact mirrors_emit same

theorem mirrors_arrayItems (both : Mirroring spell self self') :
    (arrayItems self c h).Mirrors spell Behind [] c (arrayItems self') := by
  refine mirrors_look both.respells fun d faces => ?_
  rw [faces.current both.respells]
  generalize c.current = found
  split
  · exact mirrors_skip
  · exact mirrors_skip
  · exact mirrors_bumpThen both.respells fun _ _ => both.any .arrayItems rfl rfl
  · exact mirrors_items both rfl rfl (mirrors_assignment both)
      (isWhole_assignment both.neatly c.ready_semicolon)
      (faithful_assignment both.faithfully) fun _ _ => faithful_assignment both.faithfully'

/-- What comes behind a comma, if one is next. -/
theorem mirrors_behindComma (respells : Lexeme.Respells spell) {p : Parser n} {p' : Parser m}
    (again : ∀ d h, (p d h).Mirrors spell Behind [] d p') :
    (look (fun c => if c.current = .comma then bumpThen p else skip) c h).Mirrors spell Behind [] c
      (look fun c => if c.current = .comma then bumpThen p' else skip) := by
  refine mirrors_look respells fun d faces => ?_
  rw [faces.current respells]
  split
  · exact mirrors_bumpThen respells again
  · exact mirrors_skip

theorem mirrors_argumentList (both : Mirroring spell self self') :
    (argumentList self c h).Mirrors spell Behind [] c (argumentList self') := by
  refine mirrors_look both.respells fun d faces => ?_
  rw [faces.current both.respells]
  generalize c.current = found
  split
  · exact mirrors_skip
  · exact mirrors_skip
  · exact mirrors_andThen (mirrors_assignment both) fun _ =>
      mirrors_behindComma both.respells fun _ _ => both.any .argumentList rfl rfl

theorem mirrors_sequenceTail (both : Mirroring spell self self') :
    (sequenceTail self c h).Mirrors spell Behind [] c (sequenceTail self') :=
  mirrors_behindComma both.respells fun _ _ =>
    mirrors_andThen (both.any .assignment rfl rfl) fun _ => both.any .sequenceTail rfl rfl

theorem mirrors_expression (both : Mirroring spell self self') :
    (expression self c h).Mirrors spell Anything [] c (expression self') := by
  refine mirrors_marked both.respells (fun _ => mirrors_assignment both) fun _ _ d _ same => ?_
  refine mirrors_look both.respells fun e faces => ?_
  rw [faces.current both.respells]
  split
  · exact mirrors_wrap (by decide) same (mirrors_sequenceTail both)
  · exact mirrors_emit same

end Grammar

end ScriptLint
