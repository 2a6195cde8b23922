import ScriptLint.Proofs.Syntax.Breaks
import ScriptLint.Proofs.Syntax.Relexing.Returns

/-!
# A space between two lexemes

A text without lexical errors may have a space put between any two of its lexemes, before the first
one or behind the last one: it stays without errors and keeps its tokens (`lex_spaced`). White space
takes the space in, and so does a comment that runs to the end of its line; everywhere else the space
is a lexeme of its own (`withSpace`).

A lexeme stands before whatever is not read with it, and a space is read with nothing else
(`Stands.before_space`). Further in front only what is seen of the next characters could matter, and
the space ends an exponent rather than make one (`exponentLead_space`). As no line ends at the space,
the text parses as before (`bare_parse_spaced`).
-/

namespace ScriptLint

namespace Lexeme

open Text

/-- Lexemes with a space before them. -/
def spaceBefore : List Lexeme → List Lexeme
  | [] => [⟨.whitespace, [' ']⟩]
  | l :: ls =>
    if l.kind = .whitespace then ⟨.whitespace, ' ' :: l.text⟩ :: ls
    else ⟨.whitespace, [' ']⟩ :: l :: ls

/-- Whether a space behind a lexeme is read with it. -/
def takesSpace (l : Lexeme) : Bool := l.kind == .whitespace || l.kind == .lineComment

/-- Lexemes with a space between them and others. -/
def withSpace : (before after : List Lexeme) → List Lexeme
  | [], after => spaceBefore after
  | [l], after =>
    if l.takesSpace then ⟨l.kind, l.text ++ [' ']⟩ :: after else l :: spaceBefore after
  | l :: m :: before, after => l :: withSpace (m :: before) after

theorem join_spaceBefore (ls : List Lexeme) : join (spaceBefore ls) = ' ' :: join ls := by
  cases ls with
  | nil => rfl
  | cons l ls =>
    rw [spaceBefore]
    split <;> rfl

theorem join_withSpace (before after : List Lexeme) :
    join (withSpace before after) = join before ++ ' ' :: join after := by
  fun_induction withSpace before after with
  | case1 after => exact join_spaceBefore after
  | case2 l after takes => simp [join]
  | case3 l after apart => rw [join_cons, join_spaceBefore, join_cons, List.append_assoc]; rfl
  | case4 l m before after ih => rw [join_cons, ih, join_cons l, List.append_assoc]

theorem items_spaceBefore (broken : Bool) (ls : List Lexeme) :
    items broken (spaceBefore ls) = items broken ls := by
  cases ls with
  | nil => rfl
  | cons l ls =>
    rw [spaceBefore]
    split
    · rename_i white
      have trivia : l.isTrivia = true := by rw [isTrivia, white]; rfl
      rw [items, items, if_pos trivia]
      rfl
    · exact congrArg (items · (l :: ls)) (Bool.or_false broken)

/-- The tokens stay the same, and so do the ends of lines between them. -/
theorem items_withSpace (broken : Bool) (before after : List Lexeme) :
    items broken (withSpace before after) = items broken (before ++ after) := by
  fun_induction withSpace before after generalizing broken with
  | case1 after => exact items_spaceBefore broken after
  | case2 l after takes =>
    have trivia : l.isTrivia = true := by
      rcases Bool.or_eq_true_iff.1 takes with kind | kind <;> rw [isTrivia, eq_of_beq kind] <;> rfl
    have breaks : (Lexeme.mk l.kind (l.text ++ [' '])).hasLineBreak = l.hasLineBreak := by
      simp [hasLineBreak, isLineBreak]
    have trivia' : (Lexeme.mk l.kind (l.text ++ [' '])).isTrivia = true := trivia
    rw [items, if_pos trivia', breaks, List.singleton_append, items, if_pos trivia]
  | case3 l after apart => simp only [items, items_spaceBefore, List.singleton_append]
  | case4 l m before after ih =>
    rw [List.cons_append, items, items, ih, ih]

section
variable {l : Lexeme} {kind : SyntaxKind} {first : Char} {t behind : Text}
  {ls before after : List Lexeme}

/-- White space starts with a blank, and nothing else does. -/
theorem Stands.isBlank_iff (stands : (Lexeme.mk kind (first :: t)).Stands behind) :
    isBlank first = true ↔ kind = .whitespace := by
  constructor
  · intro blank
    obtain ⟨_, _, text, isOf⟩ := stands
    obtain ⟨rfl, rfl⟩ := List.cons.inj text
    have isOf := isOf 0
    rw [scan, if_pos blank] at isOf
    exact isOf.kind.symm
  · rintro white
    cases stands.shape with
    | blank blank => exact blank
    | number | quoted | template => cases white
    | comment comment =>
      subst white
      cases comment
    | word _ _ named =>
      have word := namesProperty_ofReserved (String.ofList (first :: t))
      rw [named, white] at word
      cases word
    | mark _ among =>
      subst white
      cases isPunctuation_of_mem _ among

theorem stands_whitespace_iff : (Lexeme.mk .whitespace t).Stands behind ↔
    t ≠ [] ∧ t.all isBlank = true ∧ behind.head?.any isBlank = false := by
  cases t with
  | nil => exact ⟨fun stands => absurd rfl stands.ne_nil, fun none => absurd rfl none.1⟩
  | cons first t =>
    constructor
    · intro stands
      have blank := stands.isBlank_iff.2 rfl
      obtain ⟨blanks, ends⟩ := (stands_blank_iff blank).1 stands
      exact ⟨List.cons_ne_nil _ _, by rw [List.all_cons, blank, blanks]; rfl, ends⟩
    · rintro ⟨-, blanks, ends⟩
      obtain ⟨blank, blanks⟩ := Bool.and_eq_true_iff.1 (List.all_cons ▸ blanks)
      exact (stands_blank_iff blank).2 ⟨blanks, ends⟩

theorem stands_lineComment_iff : (Lexeme.mk .lineComment ('/' :: '/' :: t)).Stands behind ↔
    t.all (fun c => ! isLineBreak c) = true ∧
      behind.head?.any (fun c => ! isLineBreak c) = false := by
  have scans (start : Nat) : scan start '/' ('/' :: t ++ behind) =
      ⟨.lineComment, .run (fun c => ! isLineBreak c) ('/' :: t ++ behind), []⟩ := by
    rw [scan_slash, if_pos (by rfl)]
  have taken : (Cut.run (fun c => ! isLineBreak c) ('/' :: t ++ behind)).taken = '/' :: t ↔
      t.all (fun c => ! isLineBreak c) = true ∧
        behind.head?.any (fun c => ! isLineBreak c) = false :=
    Cut.taken_run_iff
  rw [← taken]
  constructor
  · rintro ⟨_, _, text, isOf⟩
    obtain ⟨rfl, rfl⟩ := List.cons.inj text
    have isOf := isOf 0
    rw [scans] at isOf
    exact isOf.taken
  · intro taken
    refine ⟨'/', '/' :: t, rfl, fun start => ?_⟩
    rw [scans]
    exact ⟨rfl, taken, rfl⟩

theorem Stands.with_space (stands : l.Stands behind) (takes : l.takesSpace = true) :
    (Lexeme.mk l.kind (l.text ++ [' '])).Stands behind := by
  obtain ⟨kind, text⟩ := l
  rcases Bool.or_eq_true_iff.1 takes with white | line
  · obtain rfl : kind = .whitespace := eq_of_beq white
    obtain ⟨-, blanks, ends⟩ := stands_whitespace_iff.1 stands
    exact stands_whitespace_iff.2 ⟨by simp, by rw [List.all_append, blanks]; rfl, ends⟩
  · obtain rfl : kind = .lineComment := eq_of_beq line
    obtain ⟨_, rfl⟩ := List.head?_eq_some_iff.1 (stands.head_of_comment rfl)
    obtain ⟨body, rfl⟩ := stands.slash
    obtain ⟨through, ends⟩ := stands_lineComment_iff.1 stands
    have through' : (body ++ [' ']).all (fun c => ! isLineBreak c) = true := by
      rw [List.all_append, through]
      rfl
    exact stands_lineComment_iff.2 ⟨through', ends⟩

/-- A lexeme with which no space is read stands before one. -/
theorem Stands.before_space (stands : l.Stands behind) (apart : l.takesSpace = false) (after : Text) :
    l.Stands (' ' :: after) := by
  have joints_apart : ∀ kind : SyntaxKind, (kind == .whitespace || kind == .lineComment) = false →
      ∀ p ∈ joints kind, p ' ' = false := by
    intro kind
    cases kind <;> decide
  exact stands.before (joints_apart l.kind apart) (by decide) after

/-- A space makes no exponent of what was none. -/
theorem exponentLead_space (front back : Text) (none : exponentLead (front ++ back) = 0) :
    exponentLead (front ++ ' ' :: back) = 0 := by
  match front with
  | [] => exact exponentLead_of_head rfl
  | [e] => simp [exponentLead, isSign]
  | [e, d] =>
    simp only [List.cons_append, List.nil_append, exponentLead] at none ⊢
    grind
  | e :: d :: c :: front => exact none

theorem Standing.space_before (standing : Standing ls) : Standing (spaceBefore ls) := by
  cases ls with
  | nil => exact ⟨stands_whitespace_iff.2 ⟨List.cons_ne_nil _ _, rfl, rfl⟩, trivial⟩
  | cons l ls =>
    obtain ⟨first, later⟩ := standing
    obtain ⟨kind, text⟩ := l
    rw [spaceBefore]
    split
    · rename_i white
      obtain rfl : kind = .whitespace := white
      obtain ⟨-, blanks, ends⟩ := stands_whitespace_iff.1 first
      exact ⟨stands_whitespace_iff.2 ⟨List.cons_ne_nil _ _, by rw [List.all_cons, blanks]; rfl, ends⟩,
        later⟩
    · rename_i other
      obtain ⟨c, t, rfl⟩ : ∃ c t, text = c :: t := List.exists_cons_of_ne_nil first.ne_nil
      have plain : isBlank c = false := by simpa using mt first.isBlank_iff.1 other
      exact ⟨stands_whitespace_iff.2 ⟨List.cons_ne_nil _ _, rfl, plain⟩, first, later⟩

theorem standing_withSpace (standing : Standing (before ++ after)) :
    Standing (withSpace before after) := by
  fun_induction withSpace before after with
  | case1 after => exact standing.space_before
  | case2 l after takes => exact ⟨standing.1.with_space takes, standing.2⟩
  | case3 l after apart =>
    refine ⟨?_, standing.2.space_before⟩
    rw [join_spaceBefore]
    exact standing.1.before_space (by simpa using apart) _
  | case4 l m before after ih =>
    obtain ⟨first, later⟩ : l.Stands (join (m :: before ++ after)) ∧ Standing (m :: before ++ after) :=
      standing
    -- the space comes behind `m`, so `l` sees the same first character
    have head : (join (withSpace (m :: before) after)).head? = (join (m :: before ++ after)).head? := by
      obtain ⟨c, t, text⟩ := List.exists_cons_of_ne_nil later.1.ne_nil
      rw [join_withSpace, join_append, join_cons, text]
      rfl
    refine ⟨first.soften (softens_of_head head) fun _ none => ?_, ih later⟩
    rw [join_append] at none
    rw [join_withSpace]
    exact exponentLead_space _ _ none

end

end Lexeme

open Lexeme (join significant withSpace)

theorem lex_withSpace {text : Text} {before after : List Lexeme} (clean : (lex text).errors = [])
    (cut : (lex text).lexemes = before ++ after) :
    lex (join before ++ ' ' :: join after) = ⟨withSpace before after, []⟩ := by
  rw [← Lexeme.join_withSpace]
  exact lex_of_standing (Lexeme.standing_withSpace (cut ▸ standing_lex clean))

/-- A space may be put between any two lexemes of a text without errors, before the first one and
behind the last one. The text stays without errors and has the same tokens. -/
theorem lex_spaced (text : Text) (before after : List Lexeme) (clean : (lex text).errors = [])
    (cut : (lex text).lexemes = before ++ after) :
    text = join before ++ join after ∧
      (lex (join before ++ ' ' :: join after)).errors = [] ∧
      significant (lex (join before ++ ' ' :: join after)).lexemes =
        significant (lex text).lexemes := by
  refine ⟨?_, ?_, ?_⟩
  · rw [← Lexeme.join_append, ← cut, join_lex]
  · rw [lex_withSpace clean cut]
  · rw [lex_withSpace clean cut, cut, ← Lexeme.map_snd_items false, ← Lexeme.map_snd_items false,
      Lexeme.items_withSpace]

/-- A number that an exponent does not follow, in front of a comment. -/
def abuttingText : Text := ['.', '5', 'e', '/', '/', ' ', 'x']

theorem lex_spaced_abuttingText :
    (lex abuttingText).errors = [] ∧
      (lex abuttingText).lexemes = [⟨.number, ['.', '5']⟩] ++
        [⟨.ident, ['e']⟩, ⟨.lineComment, ['/', '/', ' ', 'x']⟩] ∧
      (lex ['.', '5', ' ', 'e', '/', '/', ' ', 'x']).errors = [] ∧
      significant (lex ['.', '5', ' ', 'e', '/', '/', ' ', 'x']).lexemes =
        [⟨.number, ['.', '5']⟩, ⟨.ident, ['e']⟩] := by
  have clean : (lex abuttingText).errors = [] := by decide +kernel
  have cut : (lex abuttingText).lexemes = [⟨.number, ['.', '5']⟩] ++
      [⟨.ident, ['e']⟩, ⟨.lineComment, ['/', '/', ' ', 'x']⟩] := by decide +kernel
  obtain ⟨-, clean', same⟩ := lex_spaced abuttingText _ _ clean cut
  rw [cut] at same
  exact ⟨clean, cut, clean', same⟩

/-- With such a space, a text that parses without errors still does, to the same tree up to trivia. -/
theorem bare_parse_spaced {text : Text} {before after : List Lexeme}
    (parses : (parse text).errors = []) (cut : (lex text).lexemes = before ++ after) :
    (parse (join before ++ ' ' :: join after)).errors = [] ∧
      Tree.bare id (parse (join before ++ ' ' :: join after)).tree =
        Tree.bare id (parse text).tree := by
  obtain ⟨clean, good⟩ := errors_parse.1 parses
  have lexed : lex (join before ++ ' ' :: join after) = ⟨withSpace before after, []⟩ :=
    lex_withSpace clean cut
  have items : Lexeme.items false (lex text).lexemes =
      Lexeme.items false (lex (join before ++ ' ' :: join after)).lexemes := by
    rw [lexed, cut, Lexeme.items_withSpace]
  have tokens : significant (lex text).lexemes =
      significant (lex (join before ++ ' ' :: join after)).lexemes := by
    rw [← Lexeme.map_snd_items false, items, Lexeme.map_snd_items]
  have breaks : Lexeme.lineBreaks (lex text).lexemes =
      Lexeme.lineBreaks (lex (join before ++ ' ' :: join after)).lexemes := by
    rw [Lexeme.lineBreaks, items, Lexeme.lineBreaks]
  obtain ⟨good', same⟩ := echoes_breaks (Lexeme.kind_of_mem_lexFrom 0 text) good tokens breaks
  refine ⟨errors_parse.2 ⟨by rw [lexed], good'⟩, ?_⟩
  exact congrArg (fun ts => [Tree.node .program ts]) same

end ScriptLint
