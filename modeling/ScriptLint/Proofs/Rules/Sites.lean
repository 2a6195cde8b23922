import ScriptLint.Rules.FloatingDecimal
import ScriptLint.Rules.TemplateTagSpacing
import ScriptLint.Proofs.Dispatch.Reporting
import ScriptLint.Proofs.Rules.Places

/-!
# What the built-in rules report

At a literal and at a tagged template the rules report the edits that mend the gap before the token
there (`carried_literal`, `carried_tagged`). A walk through a tree meets every gap that is to be
mended once, so the edits reported on the way are those of the text, in some order
(`gathers_tallied`). What any rule gathers on such a walk is told node by node (`Gathers`).
-/

namespace ScriptLint.Rules

open Lexeme (join triviaBehind upToLast lastOf leavesBefore leavesFrom tokensFrom)
open Report (carried)
open ScriptLint.Tree (lexemesOf)

variable {read : List Lexeme} {l : Lexeme} {after : List Leaf} {wide : Bool}

/-- The gap in front of a significant lexeme that comes behind others. -/
def gapAt (read : List Lexeme) (l : Lexeme) (tagged : Bool) : Gap :=
  ⟨lastOf read, triviaBehind read, l, tagged⟩

/-- The gap in front of a significant lexeme that comes behind others, in its place. -/
def spotAt (read : List Lexeme) (l : Lexeme) (tagged : Bool) : Spot :=
  ⟨⟨Text.size (join (upToLast read)), Text.size (join read)⟩, gapAt read l tagged⟩

theorem spots_singleton (significant : l.isTrivia = false) (mark : Bool) :
    spots read [mark] [l] = [spotAt read l mark] := by
  simp [spots, significant, spotAt, gapAt]

theorem size_join_pos {ls : List Lexeme} (filled : ∀ t ∈ ls, t.text ≠ []) (some : ls ≠ []) :
    0 < Text.size (join ls) := by
  obtain ⟨t, ts, rfl⟩ := List.exists_cons_of_ne_nil some
  have := Text.size_pos (filled t List.mem_cons_self)
  rw [Lexeme.join_cons, Text.size_append]
  omega

theorem edits_singleton (significant : l.isTrivia = false) (mark : Bool) :
    edits wide read [mark] [l] =
      Patch.edits (Text.size (join (upToLast read))) ((gapAt read l mark).patches wide) := by
  rw [edits_eq_flatMap, spots_singleton significant]
  exact List.append_nil _

/-- The token of a lexeme that comes behind others, in its place. -/
def placeOf (read : List Lexeme) (l : Lexeme) (after : List Leaf) : Place :=
  ⟨leavesBefore read, ⟨l.kind, l.text, Text.size (join read)⟩, after⟩

theorem touchesWord_placeOf (l : Lexeme) (after : List Leaf)
    (filled : ∀ t ∈ triviaBehind read, t.text ≠ []) (tagged : Bool) :
    FloatingDecimal.touchesWord (placeOf read l after) = (gapAt read l tagged).touchesWord := by
  cases last : lastOf read with
  | none =>
    have nothing := Place.backFrom_of_none last
      (.token ⟨l.kind, l.text, Text.size (join read)⟩ :: after)
    simp [FloatingDecimal.touchesWord, placeOf, Place.significantBefore?, nothing,
      Gap.touchesWord, gapAt, last]
  | some p =>
    obtain ⟨init, eq, found⟩ := Place.backFrom_of_lastOf last
      (.token ⟨l.kind, l.text, Text.size (join read)⟩ :: after)
    have touches : (Text.size (join init) + Text.size p.text == Text.size (join read)) =
        (triviaBehind read).isEmpty := by
      have stop : Text.size (join (upToLast read)) = Text.size (join init) + Text.size p.text := by
        rw [eq, Lexeme.size_join_append]
        simp [join]
      rw [size_read read, stop]
      by_cases none : triviaBehind read = []
      · simp [none, join]
      · have := size_join_pos filled none
        rw [beq_false_of_ne (by omega)]
        simpa using none
    simp [FloatingDecimal.touchesWord, placeOf, Place.significantBefore?, found,
      Gap.touchesWord, gapAt, last,
      Token.stop, touches]

/-- A literal that comes behind other lexemes. -/
def literalAt (read : List Lexeme) (l : Lexeme) (after : List Leaf) : Site :=
  ⟨.literal, [.ofLexeme l], Text.size (join read), leavesBefore read, after⟩

theorem edits_untagged (read : List Lexeme) (l : Lexeme) :
    Patch.edits (Text.size (join (upToLast read))) ((gapAt read l false).patches wide) =
      Patch.edits (Text.size (join read)) (gapAt read l false).zeroPatches := by
  have lacks : ¬ (gapAt read l false).lacks wide = true := Bool.false_ne_true
  have exceeds : ¬ (gapAt read l false).exceeds wide = true := Bool.false_ne_true
  rw [Gap.patches, Gap.spacingPatches, if_neg lacks, if_neg exceeds, Patch.edits_append,
    size_read read]
  simp [Patch.edits, Patch.source, Patch.keep, gapAt]

/-- Where a lexeme that comes behind others lies. -/
def spanAt (read : List Lexeme) (l : Lexeme) : Span :=
  ⟨Text.size (join read), Text.size (join read) + Text.size l.text⟩

/-- What is reported about a lexeme that comes behind others, if it is a number. -/
def numberReport (read : List Lexeme) (l : Lexeme) : List Report :=
  if l.leads then
    let zero := if (gapAt read l false).touchesWord then [' ', '0'] else ['0']
    [(Report.new (spanAt read l) "leading").withEdit (Edit.insertBefore (spanAt read l) zero)]
  else if l.trails then
    [(Report.new (spanAt read l) "trailing").withEdit (Edit.insertAfter (spanAt read l) ['0'])]
  else []

theorem span_of_mem_numberReport {r : Report} (mem : r ∈ numberReport read l) :
    r.span = spanAt read l ∧ r.edits.length = 1 := by
  unfold numberReport at mem
  split at mem
  · obtain rfl := List.mem_singleton.1 mem
    exact ⟨rfl, rfl⟩
  split at mem
  · obtain rfl := List.mem_singleton.1 mem
    exact ⟨rfl, rfl⟩
  · cases mem

/-- At a literal the rule reports what is wrong with its token. -/
theorem check_literalAt (ctx : RuleContext) (significant : l.isTrivia = false) (after : List Leaf)
    (filled : ∀ t ∈ triviaBehind read, t.text ≠ []) :
    FloatingDecimal.check ctx (literalAt read l after) = numberReport read l := by
  have first : (literalAt read l after).firstToken? = some (placeOf read l after) := by
    have plain : (Token.mk l.kind l.text (Text.size (join read))).isTrivia = false := significant
    show Place.firstOf _ [.token ⟨l.kind, l.text, Text.size (join read)⟩] after = _
    rw [Place.firstOf, if_neg (by simp [plain])]
    rfl
  have span : (literalAt read l after).span = spanAt read l := by
    simp [literalAt, Site.span, Site.stop, Tree.sizeOf_eq, spanAt, join]
  have token : (placeOf read l after).token = ⟨l.kind, l.text, Text.size (join read)⟩ := rfl
  rw [FloatingDecimal.check, first, span]
  unfold numberReport
  by_cases number : l.kind = .number
  · have kept : (some (placeOf read l after)).filter (fun p => p.token.kind == .number) =
        some (placeOf read l after) := by simp [placeOf, number]
    rw [kept, Option.bind_some, FloatingDecimal.fault?, touchesWord_placeOf l after filled false,
      token]
    by_cases head : l.text.head? = some '.'
    · have leads : l.leads = true := by simp [Lexeme.leads, number, head]
      simp [head, leads, spanAt, Token.span, Token.stop]
    · have leads : l.leads = false := by simp [Lexeme.leads, head]
      by_cases last : l.text.getLast? = some '.'
      · have trails : l.trails = true := by simp [Lexeme.trails, number, head, last]
        simp [head, last, leads, trails, spanAt, Token.span, Token.stop]
      · have trails : l.trails = false := by simp [Lexeme.trails, last]
        simp [head, last, leads, trails]
  · have leads : l.leads = false := by simp [Lexeme.leads, number]
    have trails : l.trails = false := by simp [Lexeme.trails, number]
    simp [placeOf, number, leads, trails]

/-- What is reported about a number carries what is to be put at its point. -/
theorem carried_numberReport (read : List Lexeme) (l : Lexeme) :
    carried (numberReport read l) =
      Patch.edits (Text.size (join read)) (gapAt read l false).zeroPatches := by
  have token : (gapAt read l false).token = l := rfl
  unfold numberReport Gap.zeroPatches
  rw [token]
  by_cases leads : l.leads
  · simp [leads, carried, Patch.edits, Patch.change, Patch.keep, Report.withEdit, Report.new,
      Edit.insertBefore, Edit.insert, spanAt]
  · by_cases trails : l.trails <;>
      simp [leads, trails, carried, Patch.edits, Patch.change, Patch.keep, Report.withEdit,
        Report.new, Edit.insertAfter, Edit.insert, spanAt]

/-- At a literal the edits are reported that mend the gap before its token. -/
theorem carried_literal (ctx : RuleContext) (wide : Bool) (significant : l.isTrivia = false)
    (after : List Leaf) (filled : ∀ t ∈ triviaBehind read, t.text ≠ []) :
    carried (FloatingDecimal.check ctx (literalAt read l after)) = edits wide read [false] [l] := by
  rw [edits_singleton significant, edits_untagged, check_literalAt ctx significant after filled,
    carried_numberReport]

/-- A tagged template that comes behind other lexemes. -/
def taggedAt (read : List Lexeme) (tag : List Tree) (gap : List Lexeme) (text : Text)
    (after : List Leaf) : Site :=
  ⟨.taggedTemplateExpression,
    tag ++ gap.map .ofLexeme ++ [.node .templateLiteral [.token .template text]],
    Text.size (join read), leavesBefore read, after⟩

theorem ofSiblings_concat (before : List Leaf) (start : Nat) (after : List Leaf) (ts : List Tree)
    (kind : SyntaxKind) (children : List Tree) :
    (Site.ofSiblings before start after (ts ++ [.node kind children])).getLast? =
      some ⟨kind, children, start + Tree.sizeOf ts, (Tree.leavesOf start ts).reverse ++ before,
        after⟩ := by
  induction ts generalizing before start with
  | nil => rfl
  | cons t ts ih =>
    have later := ih ((Tree.leaves start t).reverse ++ before) (start + t.size)
    cases t with
    | token k text =>
      simpa [Site.ofSiblings, Tree.leavesOf, Tree.sizeOf, Nat.add_assoc] using later
    | node k inner =>
      simp only [List.cons_append, Site.ofSiblings, List.getLast?_cons, later]
      simp [Tree.leavesOf, Tree.sizeOf, Nat.add_assoc]

section
variable {tag : List Tree} {gap : List Lexeme} {text : Text}

/-- A template behind a tag and the trivia between them. -/
def templateAt (read : List Lexeme) (text : Text) (after : List Leaf) : Site :=
  ⟨.templateLiteral, [.token .template text], Text.size (join read), leavesBefore read, after⟩

theorem last_taggedAt (formed : ∀ t ∈ tag, t.Formed) (after : List Leaf) :
    (taggedAt read tag gap text after).childSites.getLast? =
      some (templateAt (read ++ lexemesOf tag ++ gap) text after) := by
  have gapFormed : ∀ t ∈ tag ++ gap.map Tree.ofLexeme, ∀ start,
      Tree.leaves start t = leavesFrom start t.lexemes := by
    intro t mem start
    rcases List.mem_append.1 mem with inTag | inGap
    · exact (formed t inTag).leaves start
    · obtain ⟨l, -, rfl⟩ := List.mem_map.1 inGap
      rfl
  have lexemes : lexemesOf (tag ++ gap.map Tree.ofLexeme) = lexemesOf tag ++ gap := by simp
  rw [Site.childSites, taggedAt, ofSiblings_concat, Tree.leavesOf_of_all gapFormed, Tree.sizeOf_eq,
    lexemes, Lexeme.leavesBefore_append, ← Lexeme.size_join_append,
    ← List.append_assoc read]
  rfl

theorem lastOf_tag (read : List Lexeme) (ends : Lexeme.Ends (lexemesOf tag))
    (trivia : ∀ l ∈ gap, l.isTrivia = true) :
    ∃ p, lastOf (read ++ lexemesOf tag ++ gap) = some p ∧ p.kind ≠ .slash ∧
      triviaBehind (read ++ lexemesOf tag ++ gap) = gap := by
  obtain ⟨p, last, significant, slash⟩ := ends
  obtain ⟨init, eq⟩ := List.getLast?_eq_some_iff.1 last
  obtain ⟨behind, before⟩ := Lexeme.behind_trivia trivia (read ++ lexemesOf tag)
  rw [behind, before, eq, ← List.append_assoc, Lexeme.triviaBehind_significant significant,
    Lexeme.lastOf_significant significant]
  exact ⟨p, rfl, slash, rfl⟩

theorem first_templateAt (read : List Lexeme) (text : Text) (after : List Leaf) :
    (templateAt read text after).firstToken? = some (placeOf read ⟨.template, text⟩ after) := rfl

end

/-- What the rule about template tags looks at, for a template behind a token that comes behind
others. -/
def taggedOf (start : Nat) (read init : List Lexeme) (p : Lexeme) (text : Text) (after : List Leaf) :
    TemplateTagSpacing.Tagged :=
  ⟨start, ⟨leavesBefore init, ⟨p.kind, p.text, Text.size (join init)⟩,
      leavesFrom (Text.size (join (upToLast read))) (triviaBehind read) ++
        .token ⟨.template, text, Text.size (join read)⟩ :: after⟩,
    templateAt read text after, placeOf read ⟨.template, text⟩ after⟩

section
variable {start : Nat} {init : List Lexeme} {p : Lexeme} {text : Text}

theorem stop_taggedOf (eq : upToLast read = init ++ [p]) (start : Nat) (text : Text)
    (after : List Leaf) :
    (taggedOf start read init p text after).tag.token.stop = Text.size (join (upToLast read)) := by
  rw [eq, Lexeme.size_join_append]
  simp [taggedOf, Token.stop, join]

theorem any_tokensFrom (f : SyntaxKind → Bool) (start : Nat) (ls : List Lexeme) :
    ((tokensFrom start ls).any fun t => f t.kind) = ls.any fun l => f l.kind := by
  induction ls generalizing start with
  | nil => rfl
  | cons l ls ih => simp [tokensFrom, ih]

theorem start_lt_of_mem_tokensFrom {ls : List Lexeme} (filled : ∀ l ∈ ls, l.text ≠ [])
    {t : Token} (mem : t ∈ tokensFrom start ls) : t.start < start + Text.size (join ls) := by
  induction ls generalizing start with
  | nil => cases mem
  | cons l ls ih =>
    have := Text.size_pos (filled l List.mem_cons_self)
    rw [Lexeme.join_cons, Text.size_append]
    rcases List.mem_cons.1 mem with rfl | later
    · show start < _
      omega
    · have := ih (fun l mem => filled l (List.mem_cons_of_mem _ mem)) later
      omega

theorem isSpaced_taggedOf (filled : ∀ t ∈ triviaBehind read, t.text ≠ []) :
    (taggedOf start read init p text after).isSpaced =
      (gapAt read ⟨.template, text⟩ true).isSpaced := by
  have between : Place.triviaBetween (taggedOf start read init p text after).tag
      (taggedOf start read init p text after).opening =
      tokensFrom (Text.size (join (upToLast read))) (triviaBehind read) := by
    have run : Place.triviaRun (taggedOf start read init p text after).tag.after =
        tokensFrom (Text.size (join (upToLast read))) (triviaBehind read) :=
      Place.triviaRun_of_significant
        (Lexeme.isTrivia_tokensFrom fun _ => Lexeme.isTrivia_of_mem_triviaBehind) rfl
    rw [Place.triviaBetween, run]
    refine List.takeWhile_eq_self_iff.2 fun t mem => ?_
    have bound := start_lt_of_mem_tokensFrom filled mem
    rw [← size_read] at bound
    exact decide_eq_true bound
  rw [TemplateTagSpacing.Tagged.isSpaced, Place.spaceBetween, between]
  exact any_tokensFrom (fun k => k == .whitespace) _ _

theorem comments_tokensFrom (start : Nat) (ls : List Lexeme) :
    ((tokensFrom start ls).filter Token.isComment).flatMap Token.text =
      join (ls.filter fun l => l.kind.isComment) := by
  induction ls generalizing start with
  | nil => rfl
  | cons l ls ih =>
    by_cases comment : l.kind.isComment
    · simp [tokensFrom, Token.isComment, comment, Lexeme.join_cons, ← ih (start + Text.size l.text)]
    · simp [tokensFrom, Token.isComment, comment, ← ih (start + Text.size l.text)]

theorem lineComments_tokensFrom (start : Nat) (ls : List Lexeme) :
    (((tokensFrom start ls).filter Token.isComment).any fun t => t.kind == .lineComment) =
      ls.any fun l => l.kind == .lineComment := by
  rw [List.any_filter, ← any_tokensFrom (fun k => k == .lineComment) start]
  congr 1
  funext t
  cases kind : t.kind <;> simp [Token.isComment, SyntaxKind.isComment, kind]

theorem closeGap_taggedOf (eq : upToLast read = init ++ [p]) :
    (taggedOf start read init p text after).closeGap? =
      if (gapAt read ⟨.template, text⟩ true).endsLine then none
      else some ⟨⟨Text.size (join (upToLast read)), Text.size (join read)⟩,
        join (gapAt read ⟨.template, text⟩ true).comments⟩ := by
  have comments : (taggedOf start read init p text after).template.commentsBefore =
      (tokensFrom (Text.size (join (upToLast read))) (triviaBehind read)).filter Token.isComment := by
    show ((Place.triviaRun (leavesBefore read)).filter Token.isComment).reverse = _
    rw [Place.triviaRun_before, List.filter_reverse, List.reverse_reverse]
  unfold TemplateTagSpacing.Tagged.closeGap?
  simp only [comments, lineComments_tokensFrom, comments_tokensFrom]
  rw [TemplateTagSpacing.Tagged.gap, stop_taggedOf eq]
  rfl

end

namespace Spot

/-- The report that there is space in a gap, with the comments to be left of it. -/
def unexpected (s : Spot) : Report :=
  { Report.new s.span "unexpected" with
    edits := if s.gap.endsLine then [] else [⟨s.span, join s.gap.comments⟩] }

/-- The report that there is no space in a gap, if the tagged template starts at `start`. -/
def missing (start : Nat) (s : Spot) : Report :=
  (Report.new ⟨start, s.span.stop⟩ "missing").withEdit ⟨⟨s.span.start, s.span.start⟩, [' ']⟩

end Spot

/-- What is reported about a template behind a tag, if the tagged template starts at `start`. -/
def tagReport (wide : Bool) (start : Nat) (s : Spot) : List Report :=
  match wide, s.gap.isSpaced with
  | false, true => [s.unexpected]
  | true, false => [s.missing start]
  | _, _ => []

section
variable {start : Nat} {init : List Lexeme} {p : Lexeme} {text : Text}

theorem unexpected_taggedOf (eq : upToLast read = init ++ [p]) :
    (taggedOf start read init p text after).unexpected =
      (spotAt read ⟨.template, text⟩ true).unexpected := by
  have edits : ∀ (ends : Bool) (e : Edit),
      (if ends then none else some e).toList = if ends then [] else [e] := by
    intro ends e
    cases ends <;> rfl
  rw [TemplateTagSpacing.Tagged.unexpected, TemplateTagSpacing.Tagged.gap, stop_taggedOf eq,
    closeGap_taggedOf eq, edits]
  rfl

theorem missing_taggedOf (eq : upToLast read = init ++ [p]) :
    (taggedOf start read init p text after).missing =
      (spotAt read ⟨.template, text⟩ true).missing start := by
  have stop : (taggedOf start read init p text after).tag.token.span.stop = _ :=
    stop_taggedOf eq start text after
  rw [TemplateTagSpacing.Tagged.missing, Edit.insertAfter, stop]
  rfl

end

theorem tagReport_wide (start : Nat) (s : Spot) :
    tagReport true start s = if s.gap.isSpaced then [] else [s.missing start] := by
  unfold tagReport
  cases s.gap.isSpaced <;> rfl

theorem tagReport_narrow (start : Nat) (s : Spot) :
    tagReport false start s = if s.gap.isSpaced then [s.unexpected] else [] := by
  unfold tagReport
  cases s.gap.isSpaced <;> rfl

/-- What is reported about a tagged template carries what is to be put between tag and template. -/
theorem carried_tagReport (wide : Bool) (start : Nat) {s : Spot} (tagged : s.gap.tagged = true)
    (size : s.span.start + Text.size (join s.gap.trivia) = s.span.stop) :
    carried (tagReport wide start s) = Patch.edits s.span.start (s.gap.spacingPatches wide) := by
  have span : Span.mk s.span.start (s.span.start + Text.size (join s.gap.trivia)) = s.span := by
    rw [size]
  unfold tagReport Gap.spacingPatches Gap.lacks Gap.exceeds
  rw [tagged]
  cases wide <;> cases s.gap.isSpaced
  · simp [carried, Patch.edits, Patch.keep]
  · cases ends : s.gap.endsLine <;>
      simp [carried, Spot.unexpected, ends, Patch.edits, Patch.keep, Patch.change, span]
  · simp [carried, Spot.missing, Patch.edits, Patch.keep, Patch.change, Report.withEdit, Report.new]
  · simp [carried, Patch.edits, Patch.keep]

theorem covered_tagReport {start : Nat} {s : Spot} (starts : start ≤ s.span.stop)
    (ordered : s.span.start ≤ s.span.stop) :
    ∀ r ∈ tagReport wide start s, r.span.start ≤ r.span.stop ∧ r.span.stop = s.span.stop := by
  intro r mem
  unfold tagReport at mem
  split at mem
  · obtain rfl := List.mem_singleton.1 mem
    exact ⟨ordered, rfl⟩
  · obtain rfl := List.mem_singleton.1 mem
    exact ⟨starts, rfl⟩
  · cases mem

section
variable {tag : List Tree} {gap : List Lexeme}

theorem tagged_taggedAt (read : List Lexeme) (text : Text) (formed : ∀ t ∈ tag, t.Formed)
    (ends : Lexeme.Ends (lexemesOf tag)) (trivia : ∀ l ∈ gap, l.isTrivia = true) (after : List Leaf) :
    ∃ init p, upToLast (read ++ lexemesOf tag ++ gap) = init ++ [p] ∧
      TemplateTagSpacing.tagged? (taggedAt read tag gap text after) =
        some (taggedOf (Text.size (join read)) (read ++ lexemesOf tag ++ gap) init p text after) := by
  obtain ⟨p, last, -, -⟩ := lastOf_tag read ends trivia
  obtain ⟨init, eq, before⟩ := Place.backFrom_of_lastOf last
    (.token ⟨.template, text, Text.size (join (read ++ lexemesOf tag ++ gap))⟩ :: after)
  refine ⟨init, p, eq, ?_⟩
  have tokenBefore : (templateAt (read ++ lexemesOf tag ++ gap) text after).tokenBefore? =
      some (taggedOf (Text.size (join read)) (read ++ lexemesOf tag ++ gap) init p text after).tag :=
    before
  have template : (some (templateAt (read ++ lexemesOf tag ++ gap) text after)).filter
      (fun s => s.kind == .templateLiteral) =
      some (templateAt (read ++ lexemesOf tag ++ gap) text after) := rfl
  rw [TemplateTagSpacing.tagged?, last_taggedAt formed, template]
  simp only [Option.bind_eq_bind, Option.bind_some, tokenBefore, first_templateAt]
  rfl

/-- At a tagged template the rule reports what is wrong with the gap before the template. -/
theorem check_taggedAt (ctx : RuleContext) (text : Text) (formed : ∀ t ∈ tag, t.Formed)
    (ends : Lexeme.Ends (lexemesOf tag)) (trivia : ∀ l ∈ gap, l.isTrivia = true)
    (filled : ∀ l ∈ gap, l.text ≠ []) (after : List Leaf) :
    TemplateTagSpacing.check ctx (taggedAt read tag gap text after) =
      tagReport (TemplateTagSpacing.wantsSpace ctx) (Text.size (join read))
        (spotAt (read ++ lexemesOf tag ++ gap) ⟨.template, text⟩ true) := by
  obtain ⟨init, p, eq, tagged⟩ := tagged_taggedAt read text formed ends trivia after
  obtain ⟨-, -, -, behind⟩ := lastOf_tag read ends trivia
  have filled : ∀ t ∈ triviaBehind (read ++ lexemesOf tag ++ gap), t.text ≠ [] := by rwa [behind]
  have spaced := @isSpaced_taggedOf _ after (Text.size (join read)) init p text filled
  rw [TemplateTagSpacing.check, tagged]
  simp only [spaced, unexpected_taggedOf eq, missing_taggedOf eq]
  rfl

theorem start_le_spotAt (read : List Lexeme) (tag : List Tree) (gap : List Lexeme) (l : Lexeme)
    (mark : Bool) : Text.size (join read) ≤
      (spotAt (read ++ lexemesOf tag ++ gap) l mark).span.stop := by
  simp only [spotAt, Lexeme.size_join_append]
  omega

theorem ordered_spotAt (read : List Lexeme) (l : Lexeme) (mark : Bool) :
    (spotAt read l mark).span.start + Text.size (join (spotAt read l mark).gap.trivia) =
      (spotAt read l mark).span.stop :=
  (size_read read).symm

end

/-- The parts of a tagged template. -/
def taggedParts (tag : List Tree) (gap : List Lexeme) (text : Text) : List Tree :=
  tag ++ gap.map .ofLexeme ++ [.node .templateLiteral [.token .template text]]

theorem lexemes_tagged (tag : List Tree) (gap : List Lexeme) (text : Text) :
    lexemesOf (tag ++ gap.map Tree.ofLexeme ++ [.node .templateLiteral [.token .template text]]) =
      lexemesOf tag ++ gap ++ [⟨.template, text⟩] := by
  simp

theorem lexemes_taggedParts (tag : List Tree) (gap : List Lexeme) (text : Text) :
    lexemesOf (taggedParts tag gap text) = lexemesOf tag ++ gap ++ [⟨.template, text⟩] :=
  lexemes_tagged tag gap text

theorem tagsOf_taggedParts (tag : List Tree) {gap : List Lexeme}
    (trivia : ∀ l ∈ gap, l.isTrivia = true) (text : Text) :
    Tree.tagsOf (taggedParts tag gap text) = Tree.tagsOf tag ++ [false] := by
  rw [taggedParts, Tree.tagsOf_append, Tree.tagsOf_append, Tree.tagsOf_trivia trivia,
    List.append_nil, Tree.tagsOf_node (by decide), Tree.tagsOf_token rfl]

theorem tagsOf_tagged (tag : List Tree) {gap : List Lexeme}
    (trivia : ∀ l ∈ gap, l.isTrivia = true) (text : Text) :
    Tree.tagsOf [.node .taggedTemplateExpression (taggedParts tag gap text)] =
      Tree.tagsOf tag ++ [true] := by
  rw [Tree.tagsOf_singleton, taggedParts, Tree.tags_tagged tag text trivia]

/-- How what is gathered on a walk goes with the trees that are walked through, behind the lexemes
before them. -/
structure Gathers {α : Type} (f : Phase × Site → List α)
    (P : List Lexeme → List Tree → List α → Prop) : Prop where
  leave (site : Site) : f (.leave, site) = []
  nil (read : List Lexeme) : P read [] []
  append {read : List Lexeme} {ts us : List Tree} {xs ys : List α} (first : P read ts xs)
    (rest : P (read ++ lexemesOf ts) us ys) : P read (ts ++ us) (xs ++ ys)
  token (read : List Lexeme) {kind : SyntaxKind} (text : Text) (other : kind ≠ .number) :
    P read [.token kind text] []
  literal {read : List Lexeme} {l : Lexeme} (significant : l.isTrivia = false)
    (filled : ∀ t ∈ read ++ [l], t.text ≠ []) (after : List Leaf) :
    P read [.node .literal [.ofLexeme l]] (f (.enter, literalAt read l after))
  tagged {read : List Lexeme} {tag : List Tree} {gap : List Lexeme} {text : Text} {xs : List α}
    (formed : ∀ t ∈ tag, t.Formed) (ends : Lexeme.Ends (lexemesOf tag))
    (trivia : ∀ l ∈ gap, l.isTrivia = true)
    (filled : ∀ l ∈ read ++ (lexemesOf tag ++ gap ++ [⟨.template, text⟩]), l.text ≠ [])
    (inside : P read (taggedParts tag gap text) xs) (after : List Leaf) :
    P read [.node .taggedTemplateExpression (taggedParts tag gap text)]
      (f (.enter, taggedAt read tag gap text after) ++ xs)
  node {read : List Lexeme} (site : Site) {xs : List α} (plain : site.kind.IsPlain)
    (inside : P read site.children xs) :
    P read [.node site.kind site.children] (f (.enter, site) ++ xs)

namespace Gathers

variable {α : Type} {f : Phase × Site → List α} {P : List Lexeme → List Tree → List α → Prop}

theorem walkFrom_node (gathers : Gathers f P) (before : List Leaf) (start : Nat) (after : List Leaf)
    (kind : SyntaxKind) (children : List Tree) :
    (Tree.walkFrom before start after (.node kind children)).flatMap f =
      f (.enter, ⟨kind, children, start, before, after⟩) ++
        (Tree.walkAll before start after children).flatMap f := by
  simp [Tree.walkFrom, gathers.leave]

/-- The trees of a list are walked through one after another. -/
theorem walkAll (gathers : Gathers f P) {ts : List Tree} (formed : ∀ t ∈ ts, t.Formed)
    (each : ∀ t ∈ ts, ∀ read after, (∀ l ∈ read ++ t.lexemes, l.text ≠ []) →
      P read [t] ((Tree.walkFrom (leavesBefore read) (Text.size (join read)) after t).flatMap f))
    (read : List Lexeme) (after : List Leaf) (filled : ∀ l ∈ read ++ lexemesOf ts, l.text ≠ []) :
    P read ts ((Tree.walkAll (leavesBefore read) (Text.size (join read)) after ts).flatMap f) := by
  induction ts generalizing read with
  | nil => exact gathers.nil read
  | cons t ts ih =>
    rw [lexemesOf, ← List.append_assoc] at filled
    have first := each t List.mem_cons_self read
      (Tree.leavesOf (Text.size (join read) + t.size) ts ++ after)
      fun l mem => filled l (List.mem_append_left _ mem)
    have rest := ih (fun t mem => formed t (List.mem_cons_of_mem _ mem))
      (fun t mem => each t (List.mem_cons_of_mem _ mem)) (read ++ t.lexemes) filled
    rw [Tree.walkAll, List.flatMap_append, (formed t List.mem_cons_self).leaves, Tree.size_eq,
      Lexeme.leavesBefore_append, ← Lexeme.size_join_append]
    rw [Tree.size_eq, ← Lexeme.size_join_append] at first
    exact gathers.append first (by rwa [Tree.lexemesOf_singleton])

theorem walkFrom (gathers : Gathers f P) {t : Tree} (formed : t.Formed) (read : List Lexeme)
    (after : List Leaf) (filled : ∀ l ∈ read ++ t.lexemes, l.text ≠ []) :
    P read [t] ((Tree.walkFrom (leavesBefore read) (Text.size (join read)) after t).flatMap f) := by
  induction formed generalizing read after with
  | token other => exact gathers.token read _ other
  | @literal l significant =>
    have reports : (Tree.walkFrom (leavesBefore read) (Text.size (join read)) after
        (.node .literal [.ofLexeme l])).flatMap f = f (.enter, literalAt read l after) := by
      rw [gathers.walkFrom_node]
      exact List.append_nil _
    rw [reports]
    exact gathers.literal significant filled after
  | @tagged tag gap text formed ends trivia ih =>
    have template : (Tree.node .templateLiteral [.token .template text]).Formed :=
      .node (by decide) (by simp) fun t mem => List.mem_singleton.1 mem ▸ .token (by decide)
    have parts : ∀ t ∈ taggedParts tag gap text, t.Formed ∧
        ∀ read after, (∀ l ∈ read ++ t.lexemes, l.text ≠ []) →
          P read [t]
            ((Tree.walkFrom (leavesBefore read) (Text.size (join read)) after t).flatMap f) := by
      intro t mem
      rcases List.mem_append.1 mem with first | last
      · rcases List.mem_append.1 first with inTag | inGap
        · exact ⟨formed t inTag, ih t inTag⟩
        · obtain ⟨l, among, rfl⟩ := List.mem_map.1 inGap
          have mark := Lexeme.isMark_of_trivia (trivia l among)
          exact ⟨.token mark.1, fun read _ _ => gathers.token read _ mark.1⟩
      · obtain rfl := List.mem_singleton.1 last
        refine ⟨template, fun read after _ => ?_⟩
        rw [gathers.walkFrom_node]
        have plain : SyntaxKind.templateLiteral.IsPlain := by decide
        exact gathers.node (templateAt read text after) plain
          (gathers.token read text (by decide))
    rw [Tree.lexemes, lexemes_tagged] at filled
    rw [gathers.walkFrom_node]
    refine gathers.tagged formed ends trivia filled ?_ after
    exact gathers.walkAll (fun t mem => (parts t mem).1) (fun t mem => (parts t mem).2) read after
      (by rwa [lexemes_taggedParts])
  | @node kind children plain _ formed ih =>
    rw [gathers.walkFrom_node]
    exact gathers.node ⟨kind, children, Text.size (join read), leavesBefore read, after⟩
      plain (gathers.walkAll formed ih read after filled)

/-- A walk through a program. -/
theorem walk (gathers : Gathers f P) {ts : List Tree} (formed : ∀ t ∈ ts, t.Formed)
    (filled : ∀ l ∈ lexemesOf ts, l.text ≠ []) :
    P [] [.node .program ts] ((Tree.node .program ts).walk.flatMap f) := by
  have plain : SyntaxKind.program.IsPlain := by decide
  rw [Tree.walk, gathers.walkFrom_node]
  exact gathers.node ⟨.program, ts, 0, [], []⟩ plain
    (gathers.walkAll formed (fun t mem => gathers.walkFrom (formed t mem)) [] [] filled)

end Gathers

/-- What the rules about numbers and about template tags report at a step of a walk. -/
def reportsAt (number spacing : RuleContext) (event : Phase × Site) : List Report :=
  if event.1 = .enter ∧ event.2.kind = .literal then FloatingDecimal.check number event.2
  else if event.1 = .enter ∧ event.2.kind = .taggedTemplateExpression then
    TemplateTagSpacing.check spacing event.2
  else []

theorem reportsAt_leave (number spacing : RuleContext) (site : Site) :
    reportsAt number spacing (.leave, site) = [] := rfl

theorem reportsAt_plain (number spacing : RuleContext) {site : Site} (plain : site.kind.IsPlain)
    (phase : Phase) : reportsAt number spacing (phase, site) = [] := by
  simp [reportsAt, plain.1, plain.2]

theorem carried_append (rs more : List Report) : carried (rs ++ more) = carried rs ++ carried more :=
  List.filterMap_append

/-- Whether reports are about a stretch of text, and carry the edits that mend its gaps. -/
structure Tallied (wide : Bool) (read : List Lexeme) (marks : List Bool) (ls : List Lexeme)
    (rs : List Report) : Prop where
  edits : (carried rs).Perm (Rules.edits wide read marks ls)
  covered : ∀ r ∈ rs, r.span.start ≤ r.span.stop ∧ r.span.stop ≤ Text.size (join (read ++ ls))

theorem Tallied.append {marks marks' : List Bool} {ls ls' : List Lexeme} {rs more : List Report}
    (first : Tallied wide read marks ls rs) (rest : Tallied wide (read ++ ls) marks' ls' more)
    (length : marks.length = ls.countP fun l => ! l.isTrivia) :
    Tallied wide read (marks ++ marks') (ls ++ ls') (rs ++ more) := by
  refine ⟨?_, fun r mem => ?_⟩
  · rw [carried_append, edits_append read length]
    exact first.edits.append rest.edits
  · rw [← List.append_assoc]
    rcases List.mem_append.1 mem with before | behind
    · have covered := first.covered r before
      rw [Lexeme.size_join_append]
      omega
    · exact rest.covered r behind

section
variable {number spacing : RuleContext}

theorem edits_token (read : List Lexeme) (other : l.kind ≠ .number) (wide : Bool) :
    edits wide read (Tree.tags (.ofLexeme l)) [l] = [] := by
  by_cases trivia : l.isTrivia
  · exact edits_of_trivia (by simp [trivia]) read _
  · have significant : l.isTrivia = false := by simpa using trivia
    have tags : Tree.tags (.ofLexeme l) = [false] := by
      simpa [Tree.tagsOf] using Tree.tagsOf_ofLexeme significant
    have leads : l.leads = false := by simp [Lexeme.leads, other]
    have trails : l.trails = false := by simp [Lexeme.trails, other]
    rw [tags, edits_singleton significant, edits_untagged]
    simp [Gap.zeroPatches, gapAt, leads, trails, Patch.edits, Patch.keep]

/-- The gaps of a tagged template are those of its tag and the one before its template. -/
theorem spots_behind_tag (read : List Lexeme) (tag : List Tree) {gap : List Lexeme}
    (trivia : ∀ l ∈ gap, l.isTrivia = true) (mark : Bool) (significant : l.isTrivia = false) :
    spots read (Tree.tagsOf tag ++ [mark]) (lexemesOf tag ++ gap ++ [l]) =
      spots read (Tree.tagsOf tag) (lexemesOf tag) ++
        [spotAt (read ++ lexemesOf tag ++ gap) l mark] := by
  have none : ([] : List Bool).length = gap.countP fun l => ! l.isTrivia := by
    rw [List.countP_eq_zero.2 fun t mem => by simp [trivia t mem]]
    rfl
  have behind : spots (read ++ lexemesOf tag) ([] ++ [mark]) (gap ++ [l]) = _ :=
    spots_append _ none
  rw [spots_of_trivia trivia, List.nil_append, List.nil_append, spots_singleton significant] at behind
  rw [List.append_assoc, spots_append read (Tree.length_tagsOf tag), behind]

theorem edits_behind_tag (read : List Lexeme) (tag : List Tree) {gap : List Lexeme}
    (trivia : ∀ l ∈ gap, l.isTrivia = true) (mark : Bool) (text : Text) (wide : Bool) :
    edits wide read (Tree.tagsOf tag ++ [mark]) (lexemesOf tag ++ gap ++ [⟨.template, text⟩]) =
      edits wide read (Tree.tagsOf tag) (lexemesOf tag) ++
        Patch.edits (Text.size (join (upToLast (read ++ lexemesOf tag ++ gap))))
          ((gapAt (read ++ lexemesOf tag ++ gap) ⟨.template, text⟩ mark).spacingPatches wide) := by
  have zero : (gapAt (read ++ lexemesOf tag ++ gap) ⟨.template, text⟩ mark).zeroPatches =
      [.keep text] := rfl
  rw [edits_eq_flatMap, spots_behind_tag read tag trivia mark rfl, List.flatMap_append,
    ← edits_eq_flatMap, List.flatMap_singleton, spotAt, Gap.patches, zero, Patch.edits_append]
  simp [Patch.edits, Patch.keep]

/-- A walk through a tree reports the edits that mend its gaps, in some order. -/
theorem gathers_tallied (number spacing : RuleContext) :
    Gathers (reportsAt number spacing) fun read ts rs =>
      Tallied (TemplateTagSpacing.wantsSpace spacing) read (Tree.tagsOf ts) (lexemesOf ts) rs where
  leave := reportsAt_leave number spacing
  nil read := ⟨.nil, fun r mem => by cases mem⟩
  append := by
    intro read ts us xs ys first rest
    rw [Tree.tagsOf_append, Tree.lexemesOf_append]
    exact first.append rest (Tree.length_tagsOf ts)
  token := by
    intro read kind text other
    have none : edits (TemplateTagSpacing.wantsSpace spacing) read (Tree.tags (.token kind text))
        [⟨kind, text⟩] = [] := edits_token read other _
    rw [Tree.tagsOf_singleton]
    exact ⟨none ▸ .nil, fun r mem => by cases mem⟩
  literal := by
    intro read l significant filled after
    have behind : ∀ t ∈ triviaBehind read, t.text ≠ [] :=
      fun t mem => filled t (List.mem_append_left _ (Lexeme.mem_of_mem_triviaBehind mem))
    have here := carried_literal number (TemplateTagSpacing.wantsSpace spacing) significant after
      behind
    have tags : Tree.tagsOf [.node .literal [.ofLexeme l]] = [false] := by
      rw [Tree.tagsOf_node (by decide), Tree.tagsOf_ofLexeme significant]
    have reports : reportsAt number spacing (.enter, literalAt read l after) =
        FloatingDecimal.check number (literalAt read l after) := rfl
    rw [tags, reports]
    refine ⟨here ▸ .refl _, fun r mem => ?_⟩
    rw [check_literalAt number significant after behind] at mem
    have lexemes : lexemesOf [.node .literal [.ofLexeme l]] = [l] := rfl
    rw [(span_of_mem_numberReport mem).1, lexemes]
    simp [spanAt, join]
  tagged := by
    intro read tag gap text rs formed ends trivia filled inside after
    have template : Patch.edits (Text.size (join (upToLast (read ++ lexemesOf tag ++ gap))))
        ((gapAt (read ++ lexemesOf tag ++ gap) ⟨.template, text⟩ false).spacingPatches
          (TemplateTagSpacing.wantsSpace spacing)) = [] := rfl
    have here : reportsAt number spacing (.enter, taggedAt read tag gap text after) = _ :=
      check_taggedAt spacing text formed ends trivia (fun l mem => filled l (by simp [mem])) after
    rw [tagsOf_taggedParts tag trivia, lexemes_taggedParts] at inside
    obtain ⟨edits, covered⟩ := inside
    rw [edits_behind_tag read tag trivia, template, List.append_nil] at edits
    rw [here, tagsOf_tagged tag trivia, Tree.lexemesOf_singleton, Tree.lexemes, lexemes_taggedParts]
    have ordered := ordered_spotAt (read ++ lexemesOf tag ++ gap) ⟨.template, text⟩ true
    refine ⟨?_, fun r mem => ?_⟩
    · rw [carried_append, edits_behind_tag read tag trivia, carried_tagReport _ _ rfl ordered]
      exact List.perm_append_comm.trans (edits.append (.refl _))
    · rcases List.mem_append.1 mem with now | later
      · have bound := covered_tagReport (start_le_spotAt read tag gap _ true) (by omega) r now
        have stop : (spotAt (read ++ lexemesOf tag ++ gap) ⟨.template, text⟩ true).span.stop =
          Text.size (join (read ++ lexemesOf tag ++ gap)) := rfl
        rw [← List.append_assoc, ← List.append_assoc, Lexeme.size_join_append _ [_]]
        omega
      · exact covered r later
  node := by
    intro read site rs plain inside
    rw [reportsAt_plain number spacing plain, List.nil_append, Tree.tagsOf_node plain.2,
      Tree.lexemesOf_singleton, Tree.lexemes]
    exact inside

/-- Whether a template that is marked has the shape that the tree gives it. -/
def Fitting (t : Tree) : Prop := ∀ read, ∀ g ∈ gaps read t.tags t.lexemes, g.Fits

theorem fits_all {ts : List Tree} (fitting : ∀ t ∈ ts, Fitting t) (read : List Lexeme) :
    ∀ g ∈ gaps read (Tree.tagsOf ts) (lexemesOf ts), g.Fits := by
  induction ts generalizing read with
  | nil => simp [lexemesOf, gaps]
  | cons t ts ih =>
    intro g mem
    rw [Tree.tagsOf, lexemesOf, gaps_append read (Tree.length_tags t)] at mem
    rcases List.mem_append.1 mem with first | later
    · exact fitting t List.mem_cons_self read g first
    · exact ih (fun t mem => fitting t (List.mem_cons_of_mem _ mem)) (read ++ t.lexemes) g later

theorem fits_unmarked {read ls : List Lexeme} {marks : List Bool}
    (unmarked : ∀ mark ∈ marks, mark = false)
    (length : marks.length = ls.countP fun l => ! l.isTrivia) :
    ∀ g ∈ gaps read marks ls, g.Fits := by
  intro g mem
  have mark : g.tagged ∈ marks := by
    rw [← map_tagged_gaps read length]
    exact List.mem_map_of_mem mem
  have plain := unmarked _ mark
  exact ⟨fun tagged => by simp [plain] at tagged, fun tagged => by simp [plain] at tagged⟩

theorem fitting_formed {t : Tree} (formed : t.Formed) : Fitting t := by
  induction formed with
  | @token kind text other =>
    refine fun read => fits_unmarked ?_ (Tree.length_tags _)
    by_cases trivia : kind.isTrivia <;> simp [Tree.tags, trivia]
  | @literal l significant =>
    refine fun read => fits_unmarked ?_ (Tree.length_tags _)
    simp [Tree.tags, Tree.tagsOf_ofLexeme significant]
  | @tagged tag gap text formed ends trivia ih =>
    intro read g mem
    rw [Tree.tags_tagged tag text trivia, Tree.lexemes, lexemes_tagged, List.append_assoc,
      gaps_append read (Tree.length_tagsOf tag), gaps_trivia trivia] at mem
    rcases List.mem_append.1 mem with inTag | template
    · exact fits_all ih read g inTag
    · obtain ⟨p, last, slash, -⟩ := lastOf_tag read ends trivia
      obtain rfl : g = gapAt (read ++ lexemesOf tag ++ gap) ⟨.template, text⟩ true :=
        List.mem_singleton.1 template
      exact ⟨fun _ => rfl, fun _ => ⟨p, last, slash⟩⟩
  | node plain _ _ ih =>
    intro read
    rw [Tree.tags, if_neg plain.2]
    exact fits_all ih read

end

end ScriptLint.Rules
