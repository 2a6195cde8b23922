import ScriptLint.Proofs.Syntax.Neatness
import ScriptLint.Proofs.Syntax.Relexing

/-!
# Numbers with zeros put in

A number that starts or ends with its point is a number still once it has a zero there
(`Lexeme.zeroed`), and it stands before every text that it stood before (`Stands.zeroed`).

What may come behind a lexeme is told by the shapes that lexemes have (`Stands.shape`): only words
start with the mark of an exponent, and a blank, a comment and a template start with characters that
are read with nothing else.
-/

namespace ScriptLint.Lexeme

open Text

/-- What a lexeme that stands before a text looks like, by its first character. -/
inductive Shape (behind : Text) : Lexeme → Prop
  | blank {first : Char} {t : Text} (blank : isBlank first = true) :
      Shape behind ⟨.whitespace, first :: t⟩
  | comment {kind : SyntaxKind} {t : Text} (comment : kind.isComment = true) :
      Shape behind ⟨kind, '/' :: t⟩
  | number {first : Char} {t : Text}
      (digit : first.isDigit = true ∨ (first = '.' ∧ (t ++ behind).head?.any Char.isDigit = true))
      (taken : (scanNumber first (t ++ behind)).taken = t) : Shape behind ⟨.number, first :: t⟩
  | quoted {first : Char} {t : Text} (quotes : isQuote first = true) :
      Shape behind ⟨.string, first :: t⟩
  | template {t : Text} : Shape behind ⟨.template, backtick :: t⟩
  | word {kind : SyntaxKind} {first : Char} {t : Text} (starts : isWordStart first = true)
      (parts : t.all isWordPart = true)
      (named : (SyntaxKind.ofReserved? (String.ofList (first :: t))).getD .ident = kind) :
      Shape behind ⟨kind, first :: t⟩
  | mark {kind : SyntaxKind} {first : Char} {t : Text} (starts : isWordStart first = false)
      (among : (first :: t, kind) ∈ punctuation) : Shape behind ⟨kind, first :: t⟩

section
variable {l : Lexeme} {behind : Text}

theorem Stands.shape (stands : l.Stands behind) : l.Shape behind := by
  obtain ⟨kind, text⟩ := l
  obtain ⟨first, t, rfl, isOf⟩ := stands
  have isOf := isOf 0
  unfold scan at isOf
  split at isOf
  · rename_i blank
    obtain ⟨rfl, -, -⟩ := isOf
    exact .blank blank
  split at isOf
  · rename_i comment
    obtain ⟨rfl, -, -⟩ := isOf
    exact comment.1 ▸ .comment rfl
  split at isOf
  · rename_i comment
    obtain ⟨rfl, -, -⟩ := isOf
    exact comment.1 ▸ .comment rfl
  split at isOf
  · rename_i digit
    obtain ⟨rfl, taken, -⟩ := isOf
    exact .number digit taken
  split at isOf
  · rename_i quotes
    obtain ⟨rfl, -, -⟩ := isOf
    exact .quoted quotes
  split at isOf
  · rename_i tick
    obtain ⟨rfl, -, -⟩ := isOf
    exact tick ▸ .template
  split at isOf
  · rename_i starts
    obtain ⟨rfl, taken, -⟩ := isOf
    have run : (Cut.run isWordPart (t ++ behind)).taken = t := taken
    exact .word starts (Cut.taken_run_iff.1 run).1
      (congrArg (fun t => (SyntaxKind.ofReserved? (String.ofList (first :: t))).getD .ident) run.symm)
  · rename_i starts
    exact .mark (by simpa using starts) (scanPunctuation_isOf_iff.1 isOf).1

theorem isBlank_of_isDigit {c : Char} (digit : c.isDigit = true) : isBlank c = false := by
  have bounds : 48 ≤ c.toNat ∧ c.toNat ≤ 57 := by
    simpa [Char.isDigit, UInt32.le_iff_toNat_le] using digit
  have mark : c ≠ byteOrderMark := by
    rintro rfl
    cases digit
  simp [isBlank, isSpace, inRanges, mark]
  omega

theorem stands_number {first : Char} {t : Text}
    (digit : first.isDigit = true ∨ (first = '.' ∧ (t ++ behind).head?.any Char.isDigit = true))
    (taken : (scanNumber first (t ++ behind)).taken = t) :
    (Lexeme.mk .number (first :: t)).Stands behind := by
  refine ⟨first, t, rfl, fun start => ?_⟩
  have other : first ≠ '/' := by
    rintro rfl
    rcases digit with digit | ⟨point, -⟩
    · cases digit
    · cases point
  have blank : ¬ isBlank first = true := by
    rcases digit with digit | ⟨rfl, -⟩
    · simp [isBlank_of_isDigit digit]
    · decide
  rw [scan_of_ne_slash start other, if_neg blank, if_pos digit]
  exact ⟨rfl, taken, rfl⟩

/-- Whether a number starts with its point. -/
def leads (l : Lexeme) : Bool := l.kind == .number && l.text.head? == some '.'

/-- Whether a number ends with its point and does not start with it. -/
def trails (l : Lexeme) : Bool :=
  l.kind == .number && l.text.head? != some '.' && l.text.getLast? == some '.'

/-- A number with a zero at the end where its point stands, if it stands at one. -/
def zeroed (l : Lexeme) : Lexeme :=
  if l.leads then ⟨l.kind, '0' :: l.text⟩
  else if l.trails then ⟨l.kind, l.text ++ ['0']⟩
  else l

@[simp] theorem kind_zeroed (l : Lexeme) : l.zeroed.kind = l.kind := by
  unfold zeroed
  split
  · rfl
  split <;> rfl

theorem zeroed_of_ne (other : l.kind ≠ .number) : l.zeroed = l := by
  simp [zeroed, leads, trails, other]

/-- A number is read off the text like one. -/
theorem Stands.number {first : Char} {t : Text}
    (stands : (Lexeme.mk .number (first :: t)).Stands behind) :
    (first.isDigit = true ∨ (first = '.' ∧ (t ++ behind).head?.any Char.isDigit = true)) ∧
      (scanNumber first (t ++ behind)).taken = t := by
  generalize eq : Lexeme.mk .number (first :: t) = l at stands
  cases stands.shape with
  | number digit taken =>
    obtain ⟨rfl, rfl⟩ := by simpa using eq
    exact ⟨digit, taken⟩
  | blank | quoted | template => simp at eq
  | comment comment =>
    obtain ⟨rfl, -⟩ := by simpa using eq
    cases comment
  | word _ _ named =>
    obtain ⟨rfl, -⟩ := by simpa using eq
    have word := namesProperty_ofReserved (String.ofList (first :: t))
    simp_all
    cases word
  | mark _ among =>
    obtain ⟨rfl, -⟩ := by simpa using eq
    cases isPunctuation_of_mem _ among

theorem stands_leading {t : Text} (stands : (Lexeme.mk .number ('.' :: t)).Stands behind) :
    (Lexeme.mk .number ('0' :: '.' :: t)).Stands behind := by
  have parts : ((Cut.run isDigitPart (t ++ behind)).andThen scanExponent).taken = t :=
    stands.number.2
  obtain ⟨t₁, t₂, rfl, digits, exponent⟩ := Cut.taken_andThen_iff.1 parts
  refine stands_number (.inl (by decide)) ?_
  let mantissa (cs : Text) : Cut cs := (Cut.run isDigitPart cs).andThen scanFraction
  refine (Cut.taken_andThen_iff (f := mantissa)).2 ⟨'.' :: t₁, t₂, rfl, ?_, exponent⟩
  show [] ++ (scanFraction ('.' :: (t₁ ++ (t₂ ++ behind)))).taken = _
  rw [taken_scanFraction]
  exact congrArg ('.' :: ·) digits

/-- An exponent ends with a digit. -/
theorem isDigitPart_of_exponent {c : Char} {cs : Text}
    (last : (scanExponent cs).taken.getLast? = some c) : isDigitPart c = true := by
  rcases exponentLead_cases cs with none | ⟨e, d, ds, rfl, mark, digit⟩ |
    ⟨e, s, d, ds, rfl, mark, other, sign, digit⟩
  · rw [taken_scanExponent_zero none] at last
    cases last
  · rw [taken_scanExponent_digit mark digit,
      List.takeWhile_cons_of_pos (isDigitPart_of_isDigit digit), List.getLast?_cons_cons,
      ← List.takeWhile_cons_of_pos (isDigitPart_of_isDigit digit)] at last
    exact List.mem_takeWhile_imp (List.mem_of_getLast? last)
  · rw [taken_scanExponent_sign mark other sign digit,
      List.takeWhile_cons_of_pos (isDigitPart_of_isDigit digit), List.getLast?_cons_cons,
      List.getLast?_cons_cons, ← List.takeWhile_cons_of_pos (isDigitPart_of_isDigit digit)] at last
    exact List.mem_takeWhile_imp (List.mem_of_getLast? last)

/-- A fraction that ends with the point is the point. -/
theorem fraction_of_last {t : Text} (taken : (scanFraction (t ++ behind)).taken = t)
    (last : t.getLast? = some '.') : t = ['.'] ∧ behind.head?.any isDigitPart = false := by
  rw [taken_scanFraction] at taken
  cases t with
  | nil => cases last
  | cons c t =>
    split at taken
    · rename_i head
      obtain rfl : c = '.' := by simpa using head
      have run : (Cut.run isDigitPart (t ++ behind)).taken = t := (List.cons.inj taken).2
      obtain ⟨digits, ends⟩ := Cut.taken_run_iff.1 run
      cases t with
      | nil => exact ⟨rfl, ends⟩
      | cons d t =>
        rw [List.getLast?_cons_cons] at last
        cases List.all_eq_true.1 digits _ (List.mem_of_getLast? last)
    · cases taken

theorem stands_trailing {first : Char} {t : Text} (other : first ≠ '.')
    (stands : (Lexeme.mk .number (first :: (t ++ ['.']))).Stands behind) :
    (Lexeme.mk .number (first :: (t ++ ['.', '0']))).Stands behind := by
  obtain ⟨digit, taken⟩ := stands.number
  have digit : first.isDigit = true := by simpa [other] using digit
  refine stands_number (.inl digit) ?_
  have point : isDigitPart '.' ≠ true := by decide
  by_cases radix : first = '0' ∧ (t ++ ['.'] ++ behind).head?.any isRadixMark = true
  · rw [scanNumber, if_pos radix] at taken
    cases t with
    | nil => cases radix.2
    | cons c t =>
      have run : (Cut.run isHexPart (t ++ ['.'] ++ behind)).taken = t ++ ['.'] :=
        (List.cons.inj taken).2
      have all := (Cut.taken_run_iff.1 run).1
      simp [show isHexPart '.' = false by decide] at all
  · have same : (t ++ ['.', '0'] ++ behind).head? = (t ++ ['.'] ++ behind).head? := by
      cases t <;> rfl
    rw [scanNumber, if_neg radix, if_neg other] at taken
    rw [scanNumber, if_neg (same ▸ radix), if_neg other]
    let mantissa (cs : Text) : Cut cs := (Cut.run isDigitPart cs).andThen scanFraction
    obtain ⟨t₁, t₂, parts, start, exponent⟩ := (Cut.taken_andThen_iff (f := mantissa)).1 taken
    -- Nothing but the fraction can end with the point.
    obtain rfl : t₂ = [] := by
      by_contra some
      have last : t₂.getLast? = Option.some '.' := by
        rw [← List.getLast?_append_of_ne_nil t₁ some, ← parts, List.getLast?_concat]
      exact point (isDigitPart_of_exponent (exponent ▸ last))
    rw [List.append_nil] at parts
    subst parts
    obtain ⟨s₁, s₂, parts, whole, fraction⟩ := Cut.taken_andThen_iff.1 start
    obtain ⟨digits, -⟩ := Cut.taken_run_iff.1 whole
    have last : s₂.getLast? = some '.' := by
      by_cases none : s₂ = []
      · rw [none, List.append_nil] at parts
        exact absurd (List.all_eq_true.1 digits '.' (parts ▸ by simp)) point
      · rw [← List.getLast?_append_of_ne_nil s₁ none, ← parts, List.getLast?_concat]
    obtain ⟨rfl, ends⟩ := fraction_of_last fraction last
    obtain rfl : t = s₁ := List.append_cancel_right parts
    refine (Cut.taken_andThen_iff (f := mantissa)).2 ⟨t ++ ['.', '0'], [], by simp, ?_, exponent⟩
    refine Cut.taken_andThen_iff.2 ⟨t, ['.', '0'], rfl, ?_, ?_⟩
    · exact Cut.taken_run_iff.2 ⟨digits, rfl⟩
    · rw [taken_scanFraction]
      have zero : (Cut.run isDigitPart (['0'] ++ behind)).taken = ['0'] :=
        Cut.taken_run_iff.2 ⟨rfl, ends⟩
      exact congrArg ('.' :: ·) zero

/-- With a zero at its point, a number stands where it stood. -/
theorem Stands.zeroed (stands : l.Stands behind) : l.zeroed.Stands behind := by
  obtain ⟨kind, text⟩ := l
  unfold Lexeme.zeroed
  split
  · rename_i point
    obtain ⟨rfl, head⟩ : kind = .number ∧ text.head? = some '.' := by simpa [leads] using point
    obtain ⟨t, rfl⟩ := List.head?_eq_some_iff.1 head
    exact stands_leading stands
  split
  · rename_i point
    obtain ⟨⟨rfl, head⟩, last⟩ :
        (kind = .number ∧ text.head? ≠ some '.') ∧ text.getLast? = some '.' := by
      simpa [trails] using point
    obtain ⟨t, rfl⟩ := List.getLast?_eq_some_iff.1 last
    cases t with
    | nil => cases head rfl
    | cons first t =>
      have other : first ≠ '.' := fun eq => head (by simp [eq])
      simpa using stands_trailing other stands
  · exact stands

/-- A number that starts with its point does not end with it. -/
theorem Stands.last_of_leads (stands : l.Stands behind) (point : l.leads = true) :
    l.text.getLast? ≠ some '.' := by
  obtain ⟨kind, text⟩ := l
  obtain ⟨rfl, head⟩ : kind = .number ∧ text.head? = some '.' := by simpa [leads] using point
  obtain ⟨t, rfl⟩ := List.head?_eq_some_iff.1 head
  obtain ⟨digit, taken⟩ := stands.number
  have parts : ((Cut.run isDigitPart (t ++ behind)).andThen scanExponent).taken = t := taken
  obtain ⟨t₁, t₂, rfl, run, exponent⟩ := Cut.taken_andThen_iff.1 parts
  obtain ⟨digits, ends⟩ := Cut.taken_run_iff.1 run
  intro last
  have apart : isDigitPart '.' ≠ true := by decide
  by_cases none : t₂ = []
  · subst none
    cases t₁ with
    | nil =>
      have first : behind.head?.any Char.isDigit = true := by
        simpa [show Char.isDigit '.' = false by decide] using digit
      cases behind with
      | nil => cases first
      | cons c cs =>
        have part : isDigitPart c = true := isDigitPart_of_isDigit (by simpa using first)
        simp [part] at ends
    | cons c t₁ =>
      rw [List.append_nil, List.getLast?_cons_cons] at last
      exact apart (List.all_eq_true.1 digits _ (List.mem_of_getLast? last))
  · rw [← List.cons_append, List.getLast?_append_of_ne_nil _ none, ← exponent] at last
    exact apart (isDigitPart_of_exponent last)

theorem leads_zeroed (l : Lexeme) : l.zeroed.leads = false := by
  unfold zeroed
  split
  · simp [leads]
  rename_i leading
  split
  · rename_i trailing
    have head : l.text.head? ≠ some '.' := by
      simp only [trails, Bool.and_eq_true, bne_iff_ne] at trailing
      exact trailing.1.2
    cases text : l.text <;> simp_all [leads]
  · simpa using leading

theorem Stands.trails_zeroed (stands : l.Stands behind) : l.zeroed.trails = false := by
  have last := stands.last_of_leads
  unfold Lexeme.zeroed
  split
  · rename_i leading
    have last := last leading
    cases text : l.text with
    | nil => simp [trails]
    | cons c t => simp_all [trails, List.getLast?_cons_cons]
  split
  · simp [trails]
  · rename_i trailing
    simpa using trailing

theorem text_of_inKeyword {word : String}
    (named : (SyntaxKind.ofReserved? word).getD .ident = .inKeyword) : word = "in" := by
  have only : ∀ entry ∈ SyntaxKind.reserved, entry.2 = .inKeyword → entry.1 = "in" := by decide
  cases found : SyntaxKind.ofReserved? word with
  | none =>
    rw [found] at named
    cases named
  | some kind =>
    rw [found] at named
    obtain ⟨before, after, among, -⟩ := List.lookup_eq_some_iff.1 found
    exact only _ (among ▸ List.mem_append_right before List.mem_cons_self) named

/-- What may come behind a number does not start with the mark of an exponent. -/
theorem Stands.head_behind_number (stands : l.Stands behind) (follows : l.MayFollow .number) :
    l.text.head?.any isExponentMark = false := by
  have marks {c : Char} (mark : isExponentMark c = true) : c = 'e' ∨ c = 'E' := by
    simpa [isExponentMark] using mark
  rw [← Bool.not_eq_true]
  intro mark
  cases stands.shape with
  | blank blank => rcases marks mark with rfl | rfl <;> revert blank <;> decide
  | comment => cases mark
  | number digit => rcases marks mark with rfl | rfl <;> simp at digit
  | quoted quotes => rcases marks mark with rfl | rfl <;> revert quotes <;> decide
  | template => cases mark
  | mark starts => rcases marks mark with rfl | rfl <;> revert starts <;> decide
  | @word kind first t starts parts named =>
    have word : kind.namesProperty = true := named ▸ namesProperty_ofReserved _
    rcases (follows.1 rfl).2 word with loop | text
    · have text : first :: t = ['i', 'n'] := by
        have same := congrArg String.toList (text_of_inKeyword (named.trans loop))
        simpa using same
      obtain ⟨rfl, -⟩ := List.cons.inj text
      cases mark
    · obtain ⟨rfl, -⟩ := List.cons.inj text
      cases mark

/-- A lexeme stands before a character that is not read with it. -/
theorem Stands.before (stands : l.Stands behind) {c : Char} (apart : ∀ p ∈ joints l.kind, p c = false)
    (plain : isExponentMark c = false) (after : Text) : l.Stands (c :: after) :=
  stands.soften (fun p among _ => apart p among) fun _ _ =>
    exponentLead_of_head (by simpa using plain)

/-- What a lexeme stands before matters by its first character only, unless that is the mark of an
exponent behind a number. -/
theorem Stands.of_head {after : Text} (stands : l.Stands behind) (same : after.head? = behind.head?)
    (number : l.kind = .number → behind.head?.any isExponentMark = false) : l.Stands after :=
  stands.soften (softens_of_head same) fun kind _ => exponentLead_of_head (same ▸ number kind)

theorem joints_apart_blank {kind : SyntaxKind} (significant : kind.isTrivia = false) :
    ∀ p ∈ joints kind, p ' ' = false := by
  revert significant
  cases kind <;> decide

theorem joints_apart_slash {kind : SyntaxKind} (significant : kind.isTrivia = false)
    (slash : kind ≠ .slash) : ∀ p ∈ joints kind, p '/' = false := by
  revert significant slash
  cases kind <;> decide

theorem joints_apart_tick {kind : SyntaxKind} (line : kind ≠ .lineComment) :
    ∀ p ∈ joints kind, p backtick = false := by
  revert line
  cases kind <;> decide

/-- A zero in front of a point keeps apart from what the point keeps apart from, but for words,
numbers and points. -/
theorem softens_zero {kind : SyntaxKind} (number : kind ≠ .number) (dot : kind ≠ .dot)
    (word : kind.namesProperty = false) (behind after : Text) :
    Softens (joints kind) ('.' :: behind) ('0' :: after) := by
  have apart : ∀ p ∈ joints kind, p '.' = false → p '0' = false := by
    revert number dot word
    cases kind <;> decide
  exact fun p among none => by simpa using apart p among (by simpa using none)

theorem Stands.head_of_template (stands : l.Stands behind) (template : l.kind = .template) :
    l.text.head? = some backtick := by
  cases stands.shape with
  | blank | number | quoted => cases template
  | template => rfl
  | comment comment =>
    obtain rfl : _ = SyntaxKind.template := template
    cases comment
  | @word kind first t _ _ named =>
    obtain rfl : kind = .template := template
    have word := namesProperty_ofReserved (String.ofList (first :: t))
    rw [named] at word
    cases word
  | mark _ among =>
    obtain rfl : _ = SyntaxKind.template := template
    cases isPunctuation_of_mem _ among

theorem Stands.head_of_comment (stands : l.Stands behind) (comment : l.kind.isComment = true) :
    l.text.head? = some '/' := by
  cases stands.shape with
  | blank | number | quoted | template => cases comment
  | comment => rfl
  | @word kind first t _ _ named =>
    have apart : kind.isComment = true → kind.namesProperty = false := by cases kind <;> decide
    have word := namesProperty_ofReserved (String.ofList (first :: t))
    rw [named, apart comment] at word
    cases word
  | @mark kind _ _ _ among =>
    have apart : kind.isPunctuation = true → kind.isComment = false := by cases kind <;> decide
    cases (apart (isPunctuation_of_mem _ among)).symm.trans comment

/-- A comment that runs to the end of its line has the end of the line behind it, or nothing. -/
theorem Stands.behind_lineComment (stands : l.Stands behind) (line : l.kind = .lineComment) :
    behind.head?.any (fun c => ! isLineBreak c) = false := by
  obtain ⟨kind, text⟩ := l
  obtain rfl : kind = .lineComment := line
  obtain ⟨t, rfl⟩ := List.head?_eq_some_iff.1 (stands.head_of_comment rfl)
  obtain ⟨_, _, text, isOf⟩ := stands
  obtain ⟨rfl, rfl⟩ := List.cons.inj text
  have isOf := isOf 0
  rw [scan_slash] at isOf
  split at isOf
  · exact (Cut.taken_run_iff.1 isOf.taken).2
  split at isOf
  · cases isOf.kind
  · cases isPunctuation_of_mem _ (scanPunctuation_isOf_iff.1 isOf).1

/-- A word ends like one. -/
theorem Stands.last_of_word (stands : l.Stands behind) (word : l.kind.namesProperty = true) :
    l.text.getLast?.any isWordPart = true := by
  have parts : ∀ c ∈ l.text, isWordPart c = true := by
    cases stands.shape with
    | blank | number | quoted | template => cases word
    | @comment kind _ comment =>
      have apart : kind.isComment = true → kind.namesProperty = false := by cases kind <;> decide
      cases (apart comment).symm.trans word
    | @mark kind _ _ _ among =>
      have apart : kind.isPunctuation = true → kind.namesProperty = false := by cases kind <;> decide
      cases (apart (isPunctuation_of_mem _ among)).symm.trans word
    | word starts parts => simpa [isWordStart_isWordPart starts] using parts
  have last : l.text.getLast? = some (l.text.getLast stands.ne_nil) :=
    List.getLast?_eq_some_getLast stands.ne_nil
  simpa [last] using parts _ (List.getLast_mem stands.ne_nil)

end

end ScriptLint.Lexeme
