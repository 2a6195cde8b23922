import ScriptLint.Proofs.Syntax.Relexing.Joints

/-!
# Lexing again

A lexeme stands before a text if it is read off the two of them together, without an error
(`Lexeme.Stands`). It stands before another text if none of the characters that would be read with it
came in with the first character of that (`Stands.soften`). Lexemes that stand before one another are
the lexemes of the text that they make up (`lexFrom_of_standing`), and the lexemes of a text without
errors do so (`standing_lexFrom`).
-/

namespace ScriptLint

namespace Lexeme

open Text

variable {t behind : Text}

section
variable {start : Nat} {first : Char} {kind : SyntaxKind} {after : Text}

theorem scan_slash (start : Nat) (cs : Text) : scan start '/' cs =
    if cs.head? = some '/' then ⟨.lineComment, .run (fun c => ! isLineBreak c) cs, []⟩
    else if cs.head? = some '*' then
      ⟨.blockComment, (Cut.take 1 cs).andThen fun cs => (scanComment cs).1,
        unfinished .unterminatedComment start '/'
          ((Cut.take 1 cs).andThen fun cs => (scanComment cs).1).taken (scanComment (cs.drop 1)).2⟩
    else scanPunctuation start '/' cs := by
  simp only [scan, if_neg (show ¬ isBlank '/' = true by decide), true_and]
  rfl

theorem scan_of_ne_slash (start : Nat) (other : first ≠ '/') (cs : Text) : scan start first cs =
    if isBlank first then ⟨.whitespace, .run isBlank cs, []⟩
    else if first.isDigit ∨ (first = '.' ∧ cs.head?.any Char.isDigit) then
      ⟨.number, scanNumber first cs, []⟩
    else if isQuote first then
      ⟨.string, (scanString first cs).1, unfinished .unterminatedString start first
        (scanString first cs).1.taken (scanString first cs).2⟩
    else if first = backtick then
      ⟨.template, (scanTemplate (start + first.utf8Size) [.template start 0] cs).1,
        (scanTemplate (start + first.utf8Size) [.template start 0] cs).2⟩
    else if isWordStart first then scanWord first cs
    else scanPunctuation start first cs := by
  simp only [scan, other, false_and, if_false]

theorem unfinished_eq_nil {problem : SyntaxProblem} {taken : Text} {closed : Bool} :
    unfinished problem start first taken closed = [] ↔ closed = true := by
  cases closed <;> simp [unfinished]

/-- A scan that starts with a slash, before another text. -/
theorem Scan.IsOf.soften_slash (start' : Nat) (isOf : (scan start '/' (t ++ behind)).IsOf kind t)
    (softens : Softens (joints kind) behind after) :
    (scan start' '/' (t ++ after)).IsOf kind t := by
  rw [scan_slash] at isOf ⊢
  split at isOf
  · rename_i line
    obtain ⟨rfl, taken, -⟩ := isOf
    have run := taken_run_of_softens (by simp [joints]) softens taken
    have line' : (t ++ after).head? = some '/' := by
      cases t with
      | cons c t => exact line
      | nil =>
        have ends := (Cut.taken_run_iff.1 taken).2
        rw [show behind.head? = some '/' from line] at ends
        cases ends
    rw [if_pos line']
    exact ⟨rfl, run, rfl⟩
  split at isOf
  · rename_i block
    obtain ⟨rfl, taken, clean⟩ := isOf
    cases t with
    | nil =>
      cases behind with
      | nil => cases block
      | cons => cases taken
    | cons c t =>
      obtain rfl : c = '*' := by simpa using block
      have closed := scanComment_closed after rfl (List.cons.inj taken).2 (unfinished_eq_nil.1 clean)
      rw [if_neg (by simp), if_pos (by rfl)]
      refine ⟨rfl, congrArg ('*' :: ·) closed.1, ?_⟩
      rw [show (scanComment (('*' :: t ++ after).drop 1)).2 = true from closed.2]
      rfl
  · rename_i noLine noBlock
    have same : (t ++ after).head? ≠ some '/' ∧ (t ++ after).head? ≠ some '*' := by
      cases t with
      | cons c t => exact ⟨noLine, noBlock⟩
      | nil =>
        have among := (scanPunctuation_isOf_iff.1 isOf).1
        obtain rfl : kind = .slash := by
          have only : ∀ entry ∈ punctuation, entry.1 = ['/'] → entry.2 = .slash := by decide
          exact only _ among rfl
        exact ⟨softens.ne (by simp [joints]) noLine, softens.ne (by simp [joints]) noBlock⟩
    rw [if_neg same.1, if_neg same.2]
    exact isOf.soften_punctuation start' softens

/-- A number that starts with its point has a digit behind it of its own. -/
theorem starts_number (after : Text)
    (number : first.isDigit ∨ (first = '.' ∧ (t ++ behind).head?.any Char.isDigit))
    (taken : (scanNumber first (t ++ behind)).taken = t) :
    first.isDigit ∨ (first = '.' ∧ (t ++ after).head?.any Char.isDigit) := by
  refine number.imp_right fun point => ⟨point.1, ?_⟩
  obtain ⟨rfl, digit⟩ := point
  cases t with
  | cons c t => exact digit
  | nil =>
    obtain ⟨c, cs, rfl⟩ : ∃ c cs, behind = c :: cs := by
      cases behind with
      | nil => cases digit
      | cons c cs => exact ⟨c, cs, rfl⟩
    have part : isDigitPart c = true := isDigitPart_of_isDigit (by simpa using digit)
    obtain ⟨digits, -⟩ := List.append_eq_nil_iff.1
      (show ((Cut.run isDigitPart (c :: cs)).andThen scanExponent).taken = [] from taken)
    simp [Cut.run, part] at digits

/-- A point that starts no number does not come to start one. -/
theorem starts_no_number (isOf : (scan start first (t ++ behind)).IsOf kind t)
    (number : ¬ (first.isDigit ∨ (first = '.' ∧ (t ++ behind).head?.any Char.isDigit)))
    (softens : Softens (joints kind) behind after) :
    ¬ (first.isDigit ∨ (first = '.' ∧ (t ++ after).head?.any Char.isDigit)) := by
  rintro (digit | ⟨rfl, digit⟩)
  · exact number (.inl digit)
  refine number (.inr ⟨rfl, ?_⟩)
  cases t with
  | cons c t => exact digit
  | nil =>
    by_contra none
    have isOf' : (scanPunctuation start '.' ([] ++ behind)).IsOf kind [] := by
      rw [scan_of_ne_slash start (by decide), if_neg (by decide), if_neg number, if_neg (by decide),
        if_neg (by decide), if_neg (by decide)] at isOf
      exact isOf
    have only : ∀ entry ∈ punctuation, entry.1 = ['.'] → entry.2 = .dot := by decide
    obtain rfl : kind = .dot := only _ (scanPunctuation_isOf_iff.1 isOf').1 rfl
    have apart := softens Char.isDigit (by simp [joints]) (by simpa using none)
    simp [show after.head?.any Char.isDigit = true from digit] at apart

theorem Scan.IsOf.soften_word (isOf : (scanWord first (t ++ behind)).IsOf kind t)
    (softens : Softens (joints kind) behind after) :
    (scanWord first (t ++ after)).IsOf kind t := by
  have kindOf (cs : Text) (taken : (Cut.run isWordPart cs).taken = t) : (scanWord first cs).kind =
      (SyntaxKind.ofReserved? (String.ofList (first :: t))).getD .ident := by
    rw [← taken]
    rfl
  obtain ⟨kind', taken, -⟩ := isOf
  rw [kindOf _ taken] at kind'
  have among : isWordPart ∈ joints kind := by
    rw [joints_of_word]
    · exact List.mem_singleton_self _
    · rw [← kind']
      exact namesProperty_ofReserved _
  have run := taken_run_of_softens among softens taken
  exact ⟨(kindOf _ run).trans kind', run, rfl⟩

/-- A scan that starts with anything else, before another text. -/
theorem Scan.IsOf.soften_other (start' : Nat) (other : first ≠ '/')
    (isOf : (scan start first (t ++ behind)).IsOf kind t)
    (softens : Softens (joints kind) behind after)
    (lead : kind = .number → exponentLead behind = 0 → exponentLead after = 0) :
    (scan start' first (t ++ after)).IsOf kind t := by
  have whole := isOf
  rw [scan_of_ne_slash _ other] at isOf ⊢
  split at isOf
  · rename_i blank
    obtain ⟨rfl, taken, -⟩ := isOf
    rw [if_pos blank]
    exact ⟨rfl, taken_run_of_softens (by simp [joints]) softens taken, rfl⟩
  rename_i blank
  rw [if_neg blank]
  split at isOf
  · rename_i number
    obtain ⟨rfl, taken, -⟩ := isOf
    rw [if_pos (starts_number after number taken)]
    exact ⟨rfl, taken_number_of_softens softens (lead rfl) taken, rfl⟩
  rename_i number
  rw [if_neg (starts_no_number whole number softens)]
  split at isOf
  · rename_i quotes
    obtain ⟨rfl, taken, clean⟩ := isOf
    have closed := scanString_closed after (Open.ne_backslash_of_isQuote quotes) rfl taken
      (unfinished_eq_nil.1 clean)
    rw [if_pos quotes]
    refine ⟨rfl, closed.1, ?_⟩
    rw [closed.2]
    rfl
  rename_i quotes
  rw [if_neg quotes]
  split at isOf
  · rename_i tick
    obtain ⟨rfl, taken, clean⟩ := isOf
    have closed := scanTemplate_closed after (start' + first.utf8Size)
      (.cons (.template start start' 0) .nil) rfl taken clean
    rw [if_pos tick]
    exact ⟨rfl, closed.1, closed.2⟩
  rename_i tick
  rw [if_neg tick]
  split at isOf
  · rename_i word
    rw [if_pos word]
    exact isOf.soften_word softens
  · rename_i word
    rw [if_neg word]
    exact isOf.soften_punctuation start' softens

/-- What is read with a first character, before another text. -/
theorem Scan.IsOf.soften (start' : Nat) (isOf : (scan start first (t ++ behind)).IsOf kind t)
    (softens : Softens (joints kind) behind after)
    (lead : kind = .number → exponentLead behind = 0 → exponentLead after = 0) :
    (scan start' first (t ++ after)).IsOf kind t := by
  by_cases slash : first = '/'
  · subst slash
    exact isOf.soften_slash start' softens
  · exact isOf.soften_other start' slash softens lead

end

/-- Whether a lexeme is read off itself and the text behind it, wherever it starts. -/
def Stands (l : Lexeme) (behind : Text) : Prop :=
  ∃ first t, l.text = first :: t ∧ ∀ start, (scan start first (t ++ behind)).IsOf l.kind t

theorem Stands.soften {l : Lexeme} {after : Text} (stands : l.Stands behind)
    (softens : Softens (joints l.kind) behind after)
    (lead : l.kind = .number → exponentLead behind = 0 → exponentLead after = 0) :
    l.Stands after := by
  obtain ⟨first, t, text, isOf⟩ := stands
  exact ⟨first, t, text, fun start => (isOf start).soften start softens lead⟩

theorem Stands.ne_nil {l : Lexeme} (stands : l.Stands behind) : l.text ≠ [] := by
  obtain ⟨first, t, text, -⟩ := stands
  simp [text]

/-- Whether each of some lexemes stands before the ones behind it. -/
def Standing : List Lexeme → Prop
  | [] => True
  | l :: ls => l.Stands (join ls) ∧ Standing ls

/-- A lexeme is the first one of the text that it stands in front of. -/
theorem lexFrom_of_stands {l : Lexeme} (stands : l.Stands behind) (offset : Nat) :
    lexFrom offset (l.text ++ behind) =
      (l :: (lexFrom (offset + l.size) behind).1, (lexFrom (offset + l.size) behind).2) := by
  obtain ⟨first, t, text, isOf⟩ := stands
  obtain ⟨kind, taken, clean⟩ := isOf offset
  have rest : (scan offset first (t ++ behind)).cut.rest = behind := Cut.rest_of_taken taken
  rw [text, List.cons_append, lexFrom.eq_2]
  simp only [kind, taken, clean, rest, List.nil_append, size, text, Text.size_cons, Nat.add_assoc]
  rw [← text]

/-- Lexemes that stand before one another are the lexemes of their text. -/
theorem lexFrom_of_standing {ls : List Lexeme} (standing : Standing ls) (offset : Nat) :
    lexFrom offset (join ls) = (ls, []) := by
  induction ls generalizing offset with
  | nil => exact lexFrom.eq_1 offset
  | cons l ls ih => rw [join_cons, lexFrom_of_stands standing.1, ih standing.2]

theorem standing_lexFrom {offset : Nat} {cs : Text} (clean : (lexFrom offset cs).2 = []) :
    Standing (lexFrom offset cs).1 := by
  fun_induction lexFrom offset cs with
  | case1 => trivial
  | case2 offset c cs s lexemes errors eq ih =>
    obtain ⟨cleanHere, cleanLater⟩ := List.append_eq_nil_iff.1 clean
    rw [eq] at ih
    have rest : join lexemes = s.cut.rest := by
      have whole := join_lexFrom (offset + c.utf8Size + Text.size s.cut.taken) s.cut.rest
      rwa [eq] at whole
    refine ⟨⟨c, s.cut.taken, rfl, fun start => ?_⟩, ih cleanLater⟩
    have isOf : (scan offset c (s.cut.taken ++ s.cut.rest)).IsOf s.kind s.cut.taken := by
      rw [s.cut.joined]
      exact ⟨rfl, rfl, cleanHere⟩
    rw [rest]
    exact isOf.soften start (softens_of_head rfl) fun _ lead => lead

end Lexeme

/-- The lexemes of a text that make up another text without errors are those of it. -/
theorem lex_of_standing {ls : List Lexeme} (standing : Lexeme.Standing ls) :
    lex (Lexeme.join ls) = ⟨ls, []⟩ := by
  simp only [lex, Lexeme.lexFrom_of_standing standing]

theorem standing_lex {text : Text} (clean : (lex text).errors = []) :
    Lexeme.Standing (lex text).lexemes :=
  Lexeme.standing_lexFrom clean

end ScriptLint
