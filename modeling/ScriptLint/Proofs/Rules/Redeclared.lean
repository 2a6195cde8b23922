import ScriptLint.Proofs.Dispatch.Isolation
import ScriptLint.Proofs.Linter.Remaining
import ScriptLint.Proofs.Pragma
import ScriptLint.Proofs.Rules.Mending
import ScriptLint.Proofs.Rules.Running
import ScriptLint.Proofs.Source.Boundaries
import ScriptLint.Proofs.Source.Walk

/-!
# The rule about the pragma

In a text without errors every declarator starts with the name that it binds (`exists_binds`): it is
made of an identifier, which is made of one token, and what it is initialised with. So the first
identifier below a declarator is the bound one, whatever its initialiser holds, and the rule reports the
declarators that bind the pragma, in their order (`redeclared_exact`).
-/

namespace ScriptLint

open Content (assignments mem_oneOf mem_only)
open Lexeme (Fronted join)
open ScriptLint.Tree (Closed heads lexemesOf)

namespace Tree

variable {t : Tree} {ts children : List Tree}

theorem heads_cons (significant : t.kind.isTrivia = false) : heads (t :: ts) = t.kind :: heads ts := by
  simp [heads, significant]

/-- The first child of a node is not trivia. -/
theorem Derived.isTrivia_first (derived : t.Derived) (fronted : Fronted (lexemesOf (t :: ts))) :
    t.kind.isTrivia = false := by
  cases derived with
  | @token kind text => exact fronted ⟨kind, text⟩ rfl
  | node inner => exact SyntaxKind.isTrivia_of_isInner inner

/-- Behind the last significant child of a node there is no other one. -/
theorem Closed.eq_nil (closed : Closed (t :: ts)) (none : heads ts = []) : ts = [] := by
  by_contra some
  obtain ⟨init, last, rfl⟩ := (ts.eq_nil_or_concat').resolve_left some
  have trivia := List.filter_eq_nil_iff.1 (List.map_eq_nil_iff.1 none) last (by simp)
  have plain := closed last (by rw [← List.cons_append]; exact List.getLast?_concat)
  simp [plain] at trivia

/-- An identifier is made of one token. -/
theorem identifier_parts (derived : (Tree.node .identifier children).Derived)
    (opened : (Tree.node .identifier children).Opened) :
    ∃ name, children = [.token .ident name] := by
  cases derived with | node _ content closed derived =>
  cases opened with | node fronted _ =>
  have content : heads children = [.ident] := mem_only.1 content
  cases children with
  | nil => cases content
  | cons t ts =>
    have first := derived t List.mem_cons_self
    rw [heads_cons (first.isTrivia_first fronted)] at content
    obtain ⟨kind, none⟩ := List.cons.inj content
    obtain rfl := closed.eq_nil none
    cases first with
    | @token k name =>
      obtain rfl : k = .ident := kind
      exact ⟨name, rfl⟩
    | @node k _ inner =>
      obtain rfl : k = .ident := kind
      cases inner

/-- A declarator is made of the name that it binds and what it is initialised with, if anything. -/
theorem declarator_parts (derived : (Tree.node .variableDeclarator children).Derived)
    (opened : (Tree.node .variableDeclarator children).Opened) :
    ∃ name rest, children = .node .identifier [.token .ident name] :: rest ∧
      (heads rest = [] ∨ ∃ k ∈ assignments, heads rest = [.assign, k]) := by
  cases derived with | node _ content _ all =>
  cases opened with | node fronted opened =>
  obtain ⟨one, first, more, last, parts⟩ := Language.mem_mul.1 content
  obtain rfl := mem_only.1 first
  cases children with
  | nil => cases parts
  | cons t ts =>
    have here := all t List.mem_cons_self
    have below := opened t List.mem_cons_self
    rw [heads_cons (here.isTrivia_first fronted)] at parts
    obtain ⟨kind, rfl⟩ := List.cons.inj parts
    have initial : heads ts = [] ∨ ∃ k ∈ assignments, heads ts = [.assign, k] := by
      rcases last with none | some
      · exact .inl none
      · obtain ⟨_, sign, _, value, both⟩ := Language.mem_mul.1 some
        obtain rfl := mem_only.1 sign
        obtain ⟨k, among, rfl⟩ := mem_oneOf.1 value
        exact .inr ⟨k, among, both.symm⟩
    cases here with
    | @token k text terminal =>
      obtain rfl : k = .identifier := kind.symm
      cases terminal
    | @node k inside inner held closed derived =>
      obtain rfl : k = .identifier := kind.symm
      obtain ⟨name, rfl⟩ := identifier_parts (.node inner held closed derived) below
      exact ⟨name, ts, rfl, initial⟩

end Tree

/-! ## Declarators -/

/-- The name that a node starts with. -/
def Site.name? (s : Site) : Option Text :=
  match s.children with
  | .node .identifier [.token .ident name] :: _ => some name
  | _ => none

/-- The declarators of a source, in document order. -/
def Source.declarators (source : Source) : List Site :=
  source.sites.filter fun s => s.kind = .variableDeclarator

/-- Whether a declarator is made of the name that it binds, which stands where it starts, and what it
is initialised with, if anything. -/
structure Site.Binds (source : Source) (s : Site) (name : Text) : Prop where
  parts : ∃ rest, s.children = .node .identifier [.token .ident name] :: rest ∧
    (heads rest = [] ∨ ∃ k ∈ assignments, heads rest = [.assign, k])
  filled : name ≠ []
  text : source.textOf ⟨s.start, s.start + Text.size name⟩ = name

theorem Site.Binds.name?_eq {source : Source} {s : Site} {name : Text} (binds : s.Binds source name) :
    s.name? = some name := by
  obtain ⟨rest, parts, -⟩ := binds.parts
  rw [name?, parts]

/-- A node starts with the text of its first lexeme. -/
theorem first_lexeme {text : Text} {s : Site} (mem : s ∈ (Source.ofText text).sites) {l : Lexeme}
    {ls : List Lexeme} (own : lexemesOf s.children = l :: ls) :
    l ∈ lexemesOf (programBody (lex text).lexemes).out ∧
      (Source.ofText text).textOf ⟨s.start, s.start + Text.size l.text⟩ = l.text := by
  obtain ⟨-, read, rest, splits, starts, -⟩ := Source.liesIn_of_mem_sites mem
  have lexemes : lexemesOf (programBody (lex text).lexemes).out = read ++ l :: (ls ++ rest) := by
    rw [List.append_assoc, own] at splits
    exact splits
  have whole : text = join read ++ l.text ++ join (ls ++ rest) := by
    rw [← Rules.join_parse text, lexemes, Lexeme.join_append, Lexeme.join_cons, List.append_assoc]
  have cut := Text.slice?_of_parts (join read) l.text (join (ls ++ rest))
  have start : s.start = Text.size (join read) := by rw [starts, Nat.zero_add]
  rw [← whole, ← start] at cut
  constructor
  · rw [lexemes]
    simp
  · show (Text.slice? text s.start (s.start + Text.size l.text)).getD [] = l.text
    rw [cut]
    rfl

section
variable {text : Text} (clean : (parse text).errors = [])
include clean

/-- Every declarator binds a name. -/
theorem exists_binds : ∀ s ∈ (Source.ofText text).declarators,
    ∃ name, s.Binds (Source.ofText text) name := by
  intro s mem
  obtain ⟨mem, kind⟩ := List.mem_filter.1 mem
  have kind : s.kind = .variableDeclarator := of_decide_eq_true kind
  have other : s.kind ≠ .program := by
    rw [kind]
    decide
  obtain ⟨t, among, part⟩ := exists_of_ne_program mem other
  have derived := (derived_programBody (errors_parse.1 clean).2 t among).of_mem_parts part
  have opened := (opened_programBody (lex text).lexemes t among).of_mem_parts part
  rw [kind] at derived opened
  obtain ⟨name, rest, parts, initial⟩ := Tree.declarator_parts derived opened
  have own : lexemesOf s.children = ⟨.ident, name⟩ :: lexemesOf rest := by
    rw [parts]
    rfl
  obtain ⟨lexed, starts⟩ := first_lexeme mem own
  exact ⟨name, ⟨rest, parts, initial⟩, Rules.filled_of_parses clean _ lexed, starts⟩

/-- The declarators of a source are those of its tree. -/
theorem map_node_declarators : (Source.ofText text).declarators.map Site.node =
    (parse text).tree.parts.filter fun t => t.kind = .variableDeclarator := by
  have nodes : ∀ t ∈ (parse text).tree.parts, t.kind = .variableDeclarator → t.isNode = true := by
    intro t mem kind
    cases t with
    | node => rfl
    | token k text =>
      obtain rfl : k = .variableDeclarator := kind
      obtain ⟨u, among, part⟩ := Tree.mem_partsOf.1 (List.mem_of_ne_of_mem (by simp) mem)
      cases (derived_programBody (errors_parse.1 clean).2 u among).of_mem_parts part with
      | token terminal => cases terminal
  have same := congrArg (List.filter fun t => t.kind = .variableDeclarator)
    (Source.map_node_sites (Source.ofText text))
  rw [List.filter_map, List.filter_filter] at same
  refine same.trans (List.filter_congr fun t mem => ?_)
  by_cases kind : t.kind = .variableDeclarator
  · simp [kind, nodes t mem kind]
  · simp [kind]

/-- Each declarator starts behind the name of the one before it. -/
theorem declarators_ascend :
    (Source.ofText text).declarators.Pairwise fun s next => s.start < next.start := by
  refine ((Source.sites_apart (Source.ofText text)).filter _).imp_of_mem ?_
  intro s next mem later precedes
  obtain ⟨name, binds⟩ := exists_binds clean s mem
  obtain ⟨rest, parts, -⟩ := binds.parts
  have size := Text.size_pos binds.filled
  rcases precedes with inside | behind
  · rw [Site.below, parts, Tree.walkAll, Tree.entered_append, Tree.entered_walkFrom] at inside
    rcases List.mem_append.1 inside with first | initial
    · obtain rfl := List.mem_singleton.1 first
      have kind := (List.mem_filter.1 later).2
      cases of_decide_eq_true kind
    · have start := Tree.start_le_of_mem_walkAll initial
      simp only [Tree.size, Tree.sizeOf] at start
      omega
  · rw [Site.stop, parts] at behind
    simp only [Tree.size, Tree.sizeOf] at behind
    omega

end

/-- What verifying a text without errors records is what the rules leave behind, rule by rule. -/
theorem Linter.verify_of_findings {text : Text} (clean : (ScriptLint.parse text).errors = [])
    {options : LintOptions} (rules : List ConfiguredRule) :
    let source := Source.ofText text
    let o := (new options).verify rules text
    o.diagnostics = ((Dispatch.findings options.settings source rules.zipIdx).map
        Prod.fst).filterMap Finding.diagnostic? ∧
      o.skipped = (Dispatch.skips options.settings source rules.zipIdx).map Prod.fst := by
  intro source o
  have verified : o = record (.start text) ((new options).found rules (.start text)) :=
    verify_of_parses clean
  have found : (new options).found rules (.start text) =
      Dispatch.ofFindings (rules.filterMap (ConfiguredRule.skip? options.settings source))
        ((Dispatch.findings options.settings source rules.zipIdx).map Prod.fst) :=
    Dispatch.run_eq_ofFindings rules.zipIdx (List.zipIdx_map_fst 0 rules)
  rw [Dispatch.map_fst_skips, List.zipIdx_map_fst, verified, found]
  exact ⟨rfl, rfl⟩

namespace Rules

/-! ## What is reported -/

open RedeclaredPragma (binding? check)

/-- What the rule says of a declarator that binds the pragma, about the name that is bound. -/
def redeclaration (ctx : RuleContext) (pragma : Text) (s : Site) : Diagnostic :=
  .new ctx.info.id "redeclared" ctx.severity
    ("'" ++ String.ofList pragma ++ "' is the JSX pragma and must not be redeclared.")
    (RuleContext.location ctx.source ⟨s.start, s.start + Text.size pragma⟩)

section
variable {ctx : RuleContext} {s : Site} {name pragma : Text}

/-- The first identifier below a declarator is the name that it binds. -/
theorem binding?_of_binds (binds : s.Binds ctx.source name) :
    ∃ b, binding? s = some b ∧ b.span = ⟨s.start, s.start + Text.size name⟩ := by
  obtain ⟨rest, parts, -⟩ := binds.parts
  rw [binding?, Site.childSites, parts]
  exact ⟨_, rfl, rfl⟩

/-- A declarator is reported if and only if the name that it binds is the pragma. -/
theorem check_of_binds (binds : s.Binds ctx.source name) :
    check pragma ctx s = if name = pragma then
      [(Report.new ⟨s.start, s.start + Text.size pragma⟩ "redeclared").withValue "name"
        (String.ofList pragma)] else [] := by
  obtain ⟨b, binding, span⟩ := binding?_of_binds binds
  rw [check, binding]
  by_cases same : name = pragma
  · subst same
    simp [span, binds.text]
  · simp [span, binds.text, same]

theorem diagnose_redeclared (info : ctx.info = RedeclaredPragma.info) (pragma : Text) (s : Site) :
    ctx.diagnose ((Report.new ⟨s.start, s.start + Text.size pragma⟩ "redeclared").withValue "name"
      (String.ofList pragma)) = redeclaration ctx pragma s := by
  have message : Template.render ((RedeclaredPragma.info.message? "redeclared").getD "")
      [("name", String.ofList pragma)] =
      "'" ++ String.ofList pragma ++ "' is the JSX pragma and must not be redeclared." := by
    simp [RedeclaredPragma.info, RuleInfo.message?, Template.render, Template.fill,
      Template.placeholder?, Template.afterBraces?, Template.isNameChar, Text.isSpace, Text.inRanges,
      Template.value?, String.append_assoc]
  unfold redeclaration
  rw [← message, ← info]
  rfl

theorem finds_declarator (info : ctx.info = RedeclaredPragma.info)
    (kind : s.kind = .variableDeclarator) (binds : s.Binds ctx.source name) (pragma : Text) :
    (ofPragma ctx pragma).finds (.enter, s) =
      if name = pragma then [redeclaration ctx pragma s] else [] := by
  have reports : (ofPragma ctx pragma).reports (.enter, s) = check pragma ctx s :=
    if_pos ⟨rfl, kind⟩
  have context : (ofPragma ctx pragma).context = ctx := rfl
  rw [Reporter.finds, reports, check_of_binds binds, context, ← diagnose_redeclared info]
  split <;> rfl

theorem finds_other (kind : s.kind ≠ .variableDeclarator) (pragma : Text) :
    (ofPragma ctx pragma).finds (.enter, s) = [] := by
  have reports : (ofPragma ctx pragma).reports (.enter, s) = [] := if_neg fun both => kind both.2
  rw [Reporter.finds, reports]
  rfl

/-- On a walk the rule finds the declarators that bind the pragma. -/
theorem finds_ofPragma (info : ctx.info = RedeclaredPragma.info)
    (bound : ∀ s ∈ ctx.source.declarators, ∃ name, s.Binds ctx.source name) (pragma : Text) :
    ctx.source.tree.walk.flatMap (ofPragma ctx pragma).finds =
      (ctx.source.declarators.filter fun s => s.name? = some pragma).map
        (redeclaration ctx pragma) := by
  have leave (s : Site) : (ofPragma ctx pragma).finds (.leave, s) = [] := rfl
  rw [ctx.source.flatMap_walk _ leave]
  unfold Source.declarators at bound ⊢
  generalize ctx.source.sites = sites at bound ⊢
  induction sites with
  | nil => rfl
  | cons s sites ih =>
    have later := ih fun next mem => bound next (((List.sublist_cons_self s sites).filter _).subset mem)
    rw [List.flatMap_cons, later]
    by_cases kind : s.kind = .variableDeclarator
    · obtain ⟨name, binds⟩ := bound s (by simp [kind])
      rw [finds_declarator info kind binds]
      by_cases same : name = pragma <;> simp [kind, binds.name?_eq, same]
    · rw [finds_other kind]
      simp [kind]

end

section
variable {settings : Json} {r : ConfiguredRule} (own : r.rule = RedeclaredPragma.rule)
include own

/-- The rule skips a file if the pragma is no identifier. -/
theorem skip_of_complaint {source : Source} (bad : ¬ Pragma.IsName (Pragma.name source settings)) :
    r.worker? settings source = none ∧
      r.skip? settings source = some ⟨r.id, Pragma.complaint (Pragma.name source settings)⟩ := by
  have created : r.rule.create (r.context settings source) =
      .error (Pragma.complaint (Pragma.name source settings)) := by
    rw [← Pragma.isIdentifier_iff] at bad
    simp [own, RedeclaredPragma.rule, ConfiguredRule.context, Pragma.ofSource, bad]
  rw [ConfiguredRule.worker?, ConfiguredRule.skip?, created]
  exact ⟨rfl, rfl⟩

/-- The rule is at work on a file if the pragma is an identifier. -/
theorem worker_of_name {source : Source} (good : Pragma.IsName (Pragma.name source settings)) :
    r.worker? settings source =
        some (ofPragma (r.context settings source) (Pragma.name source settings)).worker ∧
      r.skip? settings source = none := by
  have created : r.rule.create (r.context settings source) = .ok
      (.reporting .variableDeclarator (check (Pragma.name source settings))) := by
    rw [← Pragma.isIdentifier_iff] at good
    simp [own, RedeclaredPragma.rule, ConfiguredRule.context, Pragma.ofSource, good]
  rw [ConfiguredRule.skip?, created]
  exact ⟨Reporter.worker_of_ok created, rfl⟩

/-- What the rule leaves behind once it is at work. -/
theorem follow_ofPragma {text : Text} (clean : (parse text).errors = []) (pragma : Text) {α : Type}
    (label : α) :
    let source := Source.ofText text
    let ctx := r.context settings source
    Dispatch.follow source.tree.walk [((ofPragma ctx pragma).worker, label)] =
      (source.declarators.filter fun s => s.name? = some pragma).map fun s =>
        (.diagnostic (redeclaration ctx pragma s), label) := by
  intro source ctx
  have info : ctx.info = RedeclaredPragma.info := congrArg Rule.info own
  have accepts : ∀ event ∈ source.tree.walk, ∀ rep ∈ (ofPragma ctx pragma).reports event,
      ctx.Accepts rep := by
    intro event walked
    exact accepts_ofPragma info (join_parse text).symm walked
  have finds : source.tree.walk.flatMap (ofPragma ctx pragma).finds =
      (source.declarators.filter fun s => s.name? = some pragma).map (redeclaration ctx pragma) :=
    finds_ofPragma info (exists_binds clean) pragma
  rw [Dispatch.follow_reporter accepts, finds, List.map_map]
  rfl

end

/-- The rule about the pragma in a run over a text without errors, among any other rules. The pragma is
told by the comments of the text and the settings, and it is one name. If this is no identifier, the
rule is noted once as one that skips the file, and it leaves nothing else behind. If it is one, the rule
does not skip the file, and what it leaves behind are the diagnostics of the declarators that bind the
pragma, each about the bound name. The declarators are those of the whole tree in document order, and
each one is made of the name that it binds and its initialiser. -/
theorem redeclared_exact {text : Text} (clean : (parse text).errors = []) (options : LintOptions)
    {rules : List ConfiguredRule} {k : Nat} {r : ConfiguredRule} (at_ : rules[k]? = some r)
    (own : r.rule = RedeclaredPragma.rule) :
    let source := Source.ofText text
    let found := Dispatch.findings options.settings source rules.zipIdx
    let skipped := Dispatch.skips options.settings source rules.zipIdx
    let outcome := (Linter.new options).verify rules text
    (outcome.diagnostics = (found.map Prod.fst).filterMap Finding.diagnostic? ∧
      outcome.skipped = skipped.map Prod.fst) ∧
    (source.declarators.map Site.node =
        (parse text).tree.parts.filter (fun t => t.kind = .variableDeclarator) ∧
      source.declarators.Pairwise (fun s next => s.start < next.start) ∧
      ∀ s ∈ source.declarators, ∃ name, s.name? = some name ∧ s.Binds source name) ∧
    ∃ pragma, (∀ name, Pragma.Resolves ((TokenStream.ofText text).filter Token.isComment)
        options.settings name ↔ name = pragma) ∧
      (¬ Pragma.IsName pragma →
        skipped.filter (fun s => s.2 = k) = [(⟨r.id, Pragma.complaint pragma⟩, k)] ∧
        found.filter (fun f => f.2 = k) = []) ∧
      (Pragma.IsName pragma →
        skipped.filter (fun s => s.2 = k) = [] ∧
        found.filter (fun f => f.2 = k) =
          (source.declarators.filter fun s => s.name? = some pragma).map fun s =>
            (.diagnostic (redeclaration (r.context options.settings source) pragma s), k)) := by
  intro source found skipped outcome
  refine ⟨?run, ⟨map_node_declarators clean, declarators_ascend clean, ?shape⟩,
    Pragma.name source options.settings, ?resolves, ?skips, ?reports⟩
  case run => exact Linter.verify_of_findings clean rules
  case shape =>
    intro s mem
    obtain ⟨name, binds⟩ := exists_binds clean s mem
    exact ⟨name, binds.name?_eq, binds⟩
  case resolves =>
    intro name
    rw [Pragma.resolves_iff fun c mem => exists_encloses clean mem, ← comments_ofText clean]
    exact eq_comm
  case skips =>
    intro bad
    obtain ⟨none, skips⟩ := skip_of_complaint own bad
    rw [Dispatch.skips_of_rule at_, Dispatch.findings_of_rule at_, none, skips]
    constructor
    · rfl
    · exact Dispatch.follow_nil _
  case reports =>
    intro good
    obtain ⟨works, none⟩ := worker_of_name own good
    rw [Dispatch.skips_of_rule at_, Dispatch.findings_of_rule at_, works, none]
    constructor
    · rfl
    · exact follow_ofPragma own clean _ k

/-- A loop whose head binds the pragma, with an initialiser of the same name. -/
def loopText : Text :=
  ['f', 'o', 'r', '(', 'v', 'a', 'r', ' ', 'R', 'e', 'a', 'c', 't', '=', 'R', 'e', 'a', 'c', 't', ';',
   ';', ')', ';']

theorem redeclared_exact_loopText :
    let rule : ConfiguredRule := ⟨RedeclaredPragma.rule, .error, []⟩
    let source := Source.ofText loopText
    (parse loopText).errors = [] ∧
      ∃ s ∈ source.declarators, s.start = 8 ∧
        ((Dispatch.findings .null source [rule].zipIdx).filter fun f => f.2 = 0) =
          [(.diagnostic (redeclaration (rule.context .null source) "React".toList s), 0)] := by
  intro rule source
  have clean : (parse loopText).errors = [] := by decide +kernel
  obtain ⟨-, -, pragma, resolves, -, reports⟩ :=
    @redeclared_exact loopText clean ⟨1, .null⟩ [rule] 0 rule rfl rfl
  have none : (TokenStream.ofText loopText).filter Token.isComment = [] := by decide +kernel
  have unset : Pragma.Resolves ((TokenStream.ofText loopText).filter Token.isComment) .null
      "React".toList := by
    rw [none]
    exact .standard (by simp) fun name set => by cases set
  obtain rfl := (resolves _).1 unset
  have starts : (source.declarators.filter fun s =>
      s.name? = some "React".toList).map Site.start = [8] := by decide +kernel
  obtain ⟨s, one, start⟩ := List.map_eq_singleton_iff.1 starts
  obtain ⟨-, found⟩ := reports (Pragma.isIdentifier_iff.1 (by decide))
  have mem : s ∈ source.declarators.filter fun s => s.name? = some "React".toList := by
    rw [one]
    exact List.mem_singleton_self s
  rw [one] at found
  exact ⟨clean, s, (List.mem_filter.1 mem).1, start, found⟩

end Rules

end ScriptLint
