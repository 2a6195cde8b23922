import ScriptLint.Proofs.Rules.Zeroed
import ScriptLint.Proofs.Syntax.Formula
import ScriptLint.Proofs.Syntax.Relexing.Apart

/-!
# Numerals and names

A number literal stands before a space (`Numeral.stands`). Number literals and names are no more and
no less than the texts that are lexed as a single number or name (`numeral_iff_lex`,
`name_iff_lex`).
-/

namespace ScriptLint

open Text

namespace Formula

open Lexeme

variable {behind : Text}

theorem Exponent.head {exponent : Text} (ends : Exponent exponent) (spaced : Spaced behind)
    {p : Char → Bool} (space : p ' ' = false) (lower : p 'e' = false) (upper : p 'E' = false) :
    (exponent ++ behind).head?.any p = false := by
  have mark {c : Char} (marks : isExponentMark c = true) : p c = false := by
    rcases Bool.or_eq_true_iff.1 marks with eq | eq
    · exact eq_of_beq eq ▸ lower
    · exact eq_of_beq eq ▸ upper
  cases ends with
  | none => exact spaced.any space
  | plain marks => exact mark marks
  | signed marks => exact mark marks

theorem Exponent.taken {exponent : Text} (ends : Exponent exponent) (spaced : Spaced behind) :
    (scanExponent (exponent ++ behind)).taken = exponent := by
  have run (digits : Text) (all : digits.all isDigitPart = true) :
      (Cut.run isDigitPart (digits ++ behind)).taken = digits :=
    Cut.taken_run_iff.2 ⟨all, spaced.any (by decide)⟩
  cases ends with
  | none => exact taken_scanExponent_zero (exponentLead_of_head (spaced.any (by decide)))
  | @plain mark first digits marks digit all =>
    rw [List.cons_append, List.cons_append, taken_scanExponent_digit marks digit]
    exact congrArg (mark :: ·) (run (first :: digits) (by simp [isDigitPart_of_isDigit digit, all]))
  | @signed mark sign first digits marks signs digit all =>
    have other : sign.isDigit = false := by
      rcases Bool.or_eq_true_iff.1 signs with plus | minus
      · exact eq_of_beq plus ▸ rfl
      · exact eq_of_beq minus ▸ rfl
    rw [List.cons_append, List.cons_append, List.cons_append,
      taken_scanExponent_sign marks other signs digit]
    exact congrArg (mark :: sign :: ·)
      (run (first :: digits) (by simp [isDigitPart_of_isDigit digit, all]))

/-- No radix is marked by digits. -/
theorem noRadix {digits rest : Text} (all : digits.all isDigitPart = true)
    (next : rest.head?.any isRadixMark = false) :
    (digits ++ rest).head?.any isRadixMark = false := by
  cases digits with
  | nil => exact next
  | cons c digits =>
    have part : isDigitPart c = true := by simp_all
    have apart : (['x', 'X', 'o', 'O', 'b', 'B'].all fun c => ! isDigitPart c) = true := by decide
    refine Bool.eq_false_iff.2 fun mark => ?_
    have other := List.all_eq_true.1 apart c (List.contains_iff_mem.1 mark)
    rw [part] at other
    cases other

/-- A decimal number: its digits, its fraction and its exponent. -/
theorem taken_decimal {first : Char} {digits fraction exponent : Text} (digit : first.isDigit = true)
    (all : digits.all isDigitPart = true) (ends : Exponent exponent) (spaced : Spaced behind)
    (apart : (fraction ++ (exponent ++ behind)).head?.any isDigitPart = false)
    (noMark : (fraction ++ (exponent ++ behind)).head?.any isRadixMark = false)
    (taken : (scanFraction (fraction ++ (exponent ++ behind))).taken = fraction) :
    (scanNumber first (digits ++ (fraction ++ exponent) ++ behind)).taken =
      digits ++ (fraction ++ exponent) := by
  have point : first ≠ '.' := by
    rintro rfl
    cases digit
  have radix : ¬ (first = '0' ∧
      (digits ++ (fraction ++ exponent) ++ behind).head?.any isRadixMark = true) := by
    rw [List.append_assoc, List.append_assoc, noRadix all noMark]
    simp
  rw [scanNumber, if_neg radix, if_neg point]
  let mantissa (cs : Text) : Cut cs := (Cut.run isDigitPart cs).andThen scanFraction
  refine (Cut.taken_andThen_iff (f := mantissa)).2
    ⟨digits ++ fraction, exponent, (List.append_assoc ..).symm, ?_, ends.taken spaced⟩
  exact Cut.taken_andThen_iff.2 ⟨digits, fraction, rfl, Cut.taken_run_iff.2 ⟨all, apart⟩, taken⟩

/-- A number stands before a space. -/
theorem Numeral.stands {word : Text} (numeral : Numeral word) (spaced : Spaced behind) :
    (Lexeme.mk .number word).Stands behind := by
  have apart {p : Char → Bool} (space : p ' ' = false) := spaced.any space
  cases numeral with
  | @radix mark digits marks all =>
    refine stands_number (.inl rfl) ?_
    rw [scanNumber, if_pos ⟨rfl, marks⟩]
    exact congrArg (mark :: ·) (Cut.taken_run_iff.2 ⟨all, spaced.any (by decide)⟩)
  | @whole first digits exponent digit all ends =>
    have fraction : (scanFraction ([] ++ (exponent ++ behind))).taken = [] := by
      rw [taken_scanFraction, if_neg]
      intro head
      have other := ends.head spaced (p := (· == '.')) rfl rfl rfl
      rw [show (exponent ++ behind).head? = some '.' from head] at other
      cases other
    have taken := taken_decimal digit all ends spaced
      (ends.head spaced (by decide) (by decide) (by decide))
      (ends.head spaced (by decide) (by decide) (by decide)) fraction
    exact stands_number (.inl digit) taken
  | @decimal first digits fraction exponent digit all behindPoint ends =>
    have run : (Cut.run isDigitPart (fraction ++ (exponent ++ behind))).taken = fraction :=
      Cut.taken_run_iff.2 ⟨behindPoint, ends.head spaced (by decide) (by decide) (by decide)⟩
    have whole : (scanFraction ('.' :: fraction ++ (exponent ++ behind))).taken =
        '.' :: fraction := by
      rw [taken_scanFraction]
      exact congrArg ('.' :: ·) run
    exact stands_number (.inl digit) (taken_decimal digit all ends spaced rfl rfl whole)
  | @point first digits exponent digit all ends =>
    refine stands_number (.inr ⟨rfl, by simpa using digit⟩) ?_
    rw [scanNumber, if_neg fun zero => absurd zero.1 (by decide), if_pos rfl]
    refine Cut.taken_andThen_iff.2 ⟨first :: digits, exponent, rfl, ?_, ends.taken spaced⟩
    exact Cut.taken_run_iff.2 ⟨by simp [isDigitPart_of_isDigit digit, all],
      ends.head spaced (by decide) (by decide) (by decide)⟩

/-- An exponent is what is read as one. -/
theorem exponent_of_taken {t : Text} (taken : (scanExponent (t ++ [])).taken = t) : Exponent t := by
  rw [List.append_nil] at taken
  rcases exponentLead_cases t with none | ⟨mark, first, digits, rfl, marks, digit⟩ |
    ⟨mark, sign, first, digits, rfl, marks, other, signs, digit⟩
  · rw [taken_scanExponent_zero none] at taken
    exact taken ▸ .none
  · rw [taken_scanExponent_digit marks digit,
      List.takeWhile_cons_of_pos (isDigitPart_of_isDigit digit)] at taken
    have all : ∀ c ∈ digits, isDigitPart c = true := List.takeWhile_eq_self_iff.1 (by simpa using taken)
    exact .plain marks digit (List.all_eq_true.2 all)
  · rw [taken_scanExponent_sign marks other signs digit,
      List.takeWhile_cons_of_pos (isDigitPart_of_isDigit digit)] at taken
    have all : ∀ c ∈ digits, isDigitPart c = true := List.takeWhile_eq_self_iff.1 (by simpa using taken)
    exact .signed marks signs digit (List.all_eq_true.2 all)

/-- What is read as a number is a numeral. -/
theorem numeral_of_stands {word : Text} (stands : (Lexeme.mk .number word).Stands []) :
    Numeral word := by
  obtain ⟨first, t, rfl⟩ := List.exists_cons_of_ne_nil stands.ne_nil
  obtain ⟨starts, taken⟩ := stands.number
  by_cases radix : first = '0' ∧ (t ++ []).head?.any isRadixMark = true
  · rw [scanNumber, if_pos radix] at taken
    obtain ⟨rfl, marks⟩ := radix
    cases t with
    | nil => cases marks
    | cons mark t =>
      have run : (Cut.run isHexPart (t ++ [])).taken = t := (List.cons.inj taken).2
      exact .radix marks (Cut.taken_run_iff.1 run).1
  rw [scanNumber, if_neg radix] at taken
  by_cases point : first = '.'
  · rw [if_pos point] at taken
    subst point
    obtain ⟨t₁, t₂, rfl, digits, exponent⟩ := Cut.taken_andThen_iff.1 taken
    obtain ⟨all, ends⟩ := Cut.taken_run_iff.1 digits
    cases t₁ with
    | nil =>
      -- A digit comes behind the point, so the run of digits is not empty.
      rcases starts with digit | ⟨-, digit⟩
      · cases digit
      · cases t₂ with
        | nil => cases digit
        | cons c t₂ =>
          have part : isDigitPart c = true := isDigitPart_of_isDigit digit
          exact absurd (part.symm.trans ends) Bool.noConfusion
    | cons c digits =>
      rw [List.all_cons, Bool.and_eq_true] at all
      rcases starts with digit | ⟨-, digit⟩
      · cases digit
      · exact .point digit all.2 (exponent_of_taken exponent)
  · rw [if_neg point] at taken
    have digit : first.isDigit = true := by simpa [point] using starts
    let mantissa (cs : Text) : Cut cs := (Cut.run isDigitPart cs).andThen scanFraction
    obtain ⟨t₁, t₂, rfl, start, exponent⟩ := (Cut.taken_andThen_iff (f := mantissa)).1 taken
    obtain ⟨s₁, s₂, rfl, whole, fraction⟩ := Cut.taken_andThen_iff.1 start
    obtain ⟨all, -⟩ := Cut.taken_run_iff.1 whole
    have ends : Exponent t₂ := exponent_of_taken exponent
    rw [List.append_assoc]
    rw [taken_scanFraction] at fraction
    cases s₂ with
    | nil => exact .whole digit all ends
    | cons c s₂ =>
      split at fraction
      · rename_i head
        obtain rfl : c = '.' := Option.some.inj head
        have run : (Cut.run isDigitPart (s₂ ++ (t₂ ++ []))).taken = s₂ := (List.cons.inj fraction).2
        exact .decimal digit all (Cut.taken_run_iff.1 run).1 ends
      · cases fraction

/-- Number literals are the texts that are one number. -/
theorem numeral_iff_lex {word : Text} : Numeral word ↔ lex word = ⟨[⟨.number, word⟩], []⟩ := by
  constructor
  · intro numeral
    have standing : Standing [⟨.number, word⟩] := ⟨numeral.stands spaced_nil, trivial⟩
    simpa [join] using lex_of_standing standing
  · intro lexed
    have standing := standing_lex (congrArg Lexed.errors lexed)
    rw [lexed] at standing
    exact numeral_of_stands standing.1

theorem Name.stands (name : Name) (spaced : Spaced behind) :
    (Lexeme.mk .ident (name.first :: name.rest)).Stands behind := by
  have stands := stands_word name.starts name.parts (spaced.any (by decide))
  rwa [name.free] at stands

theorem free_of_named {word : String} (named : (SyntaxKind.ofReserved? word).getD .ident = .ident) :
    SyntaxKind.ofReserved? word = none := by
  have others : ∀ entry ∈ SyntaxKind.reserved, entry.2 ≠ .ident := by decide
  cases found : SyntaxKind.ofReserved? word with
  | none => rfl
  | some kind =>
    obtain ⟨before, after, among, -⟩ := List.lookup_eq_some_iff.1 found
    rw [found] at named
    exact absurd named (others _ (among ▸ List.mem_append_right before List.mem_cons_self))

theorem exists_name_of_stands {word behind : Text} (stands : (Lexeme.mk .ident word).Stands behind) :
    ∃ name : Name, name.first :: name.rest = word := by
  generalize eq : Lexeme.mk .ident word = l at stands
  cases stands.shape with
  | word starts parts named =>
    obtain ⟨rfl, rfl⟩ := by simpa using eq
    exact ⟨⟨_, _, starts, parts, free_of_named named⟩, rfl⟩
  | blank | number | quoted | template => simp at eq
  | comment comment =>
    obtain ⟨rfl, -⟩ := by simpa using eq
    cases comment
  | mark _ among =>
    obtain ⟨rfl, -⟩ := by simpa using eq
    cases isPunctuation_of_mem _ among

/-- Names are the texts that are one name. -/
theorem exists_name_iff_lex {word : Text} : (∃ name : Name, name.first :: name.rest = word) ↔
    lex word = ⟨[⟨.ident, word⟩], []⟩ := by
  constructor
  · rintro ⟨name, rfl⟩
    have standing : Standing [⟨.ident, name.first :: name.rest⟩] :=
      ⟨name.stands spaced_nil, trivial⟩
    simpa [join] using lex_of_standing standing
  · intro lexed
    have standing := standing_lex (congrArg Lexed.errors lexed)
    rw [lexed] at standing
    exact exists_name_of_stands standing.1

end Formula

end ScriptLint
