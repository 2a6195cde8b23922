import ScriptLint.Proofs.Syntax.Relexing

/-!
# Words and punctuation in front of a space

No character that words or punctuation would be read with is a space. So a word and a piece of
punctuation stand before every text that starts with a space, and before the empty one
(`stands_word`, `stands_punctuation`).
-/

namespace ScriptLint

open Text

namespace Lexeme

variable {behind : Text}

/-- Whether a text starts with a space, or not at all. -/
def Spaced (behind : Text) : Prop := ∀ c ∈ behind.head?, c = ' '

theorem spaced_nil : Spaced [] := fun _ mem => by cases mem

theorem Spaced.any (spaced : Spaced behind) {p : Char → Bool} (apart : p ' ' = false) :
    behind.head?.any p = false := by
  cases eq : behind.head? with
  | none => rfl
  | some c =>
    obtain rfl := spaced c eq
    exact apart

/-- The code points of blanks. -/
def blanks : List Nat :=
  [0x09, 0x0A, 0x0B, 0x0C, 0x0D, 0x20, 0x85, 0xA0, 0x1680, 0x2000, 0x2001, 0x2002, 0x2003, 0x2004,
   0x2005, 0x2006, 0x2007, 0x2008, 0x2009, 0x200A, 0x2028, 0x2029, 0x202F, 0x205F, 0x3000, 0xFEFF]

theorem mem_blanks {c : Char} (blank : isBlank c = true) : c.toNat ∈ blanks := by
  rcases Bool.or_eq_true_iff.1 blank with space | mark
  · simp only [isSpace, inRanges, List.any_cons, List.any_nil, Bool.or_eq_true, Bool.and_eq_true,
      decide_eq_true_eq, Bool.false_eq_true, or_false] at space
    simp only [blanks, List.mem_cons, List.not_mem_nil, or_false]
    omega
  · obtain rfl := eq_of_beq mark
    decide

/-- No word starts with a blank. -/
theorem isBlank_of_isWordStart {c : Char} (starts : isWordStart c = true) : isBlank c = false := by
  have none : ∀ n ∈ blanks, isWordStart (Char.ofNat n) = false := by decide +kernel
  by_contra blank
  have apart := none c.toNat (mem_blanks (by simpa using blank))
  rw [Char.ofNat_toNat, starts] at apart
  cases apart

theorem isDigit_of_isWordStart {c : Char} (starts : isWordStart c = true) : c.isDigit = false := by
  by_contra digit
  have bounds : 48 ≤ c.toNat ∧ c.toNat ≤ 57 := by
    simpa [Char.isDigit, UInt32.le_iff_toNat_le] using digit
  have none : ∀ n < 58, 48 ≤ n → isWordStart (Char.ofNat n) = false := by decide
  have apart := none c.toNat (by omega) bounds.1
  rw [Char.ofNat_toNat, starts] at apart
  cases apart

theorem stands_word {first : Char} {rest : Text} (starts : isWordStart first = true)
    (parts : rest.all isWordPart = true) (apart : behind.head?.any isWordPart = false) :
    (Lexeme.mk ((SyntaxKind.ofReserved? (String.ofList (first :: rest))).getD .ident)
      (first :: rest)).Stands behind := by
  have ne {c : Char} (other : isWordStart c = false) : first ≠ c := by
    rintro rfl
    rw [starts] at other
    cases other
  have quotes : isQuote first = false := by
    simp [isQuote, ne (c := '"') (by decide), ne (c := '\'') (by decide)]
  have digit := isDigit_of_isWordStart starts
  have run : (Cut.run isWordPart (rest ++ behind)).taken = rest := Cut.taken_run_iff.2 ⟨parts, apart⟩
  refine ⟨first, rest, rfl, fun start => ?_⟩
  rw [scan_of_ne_slash start (ne (by decide)), if_neg (by simp [isBlank_of_isWordStart starts]),
    if_neg (by simp [digit, ne (c := '.') (by decide)]), if_neg (by simp [quotes]),
    if_neg (ne (by decide)), if_pos starts]
  refine ⟨?_, run, rfl⟩
  show (SyntaxKind.ofReserved? (String.ofList
    (first :: (Cut.run isWordPart (rest ++ behind)).taken))).getD .ident = _
  rw [run]

/-- Whether nothing but punctuation starts with a character, a slash and a point apart. -/
def isMark (c : Char) : Bool :=
  ! isBlank c && ! c.isDigit && ! isQuote c && c != backtick && ! isWordStart c

/-- What would make a comment of a slash or a number of a point. -/
def alters (c : Char) : Bool := c == '/' || c == '*' || c.isDigit

/-- Punctuation stands before a space. -/
theorem stands_punctuation {text : Text} {kind : SyntaxKind} (among : (text, kind) ∈ punctuation)
    (spaced : Spaced behind) : (Lexeme.mk kind text).Stands behind := by
  have shapes : ∀ entry ∈ punctuation, entry.1.contains ' ' = false ∧
      entry.1.head?.any isMark = true ∧ entry.1.tail.head?.any alters = false := by
    decide
  obtain ⟨-, marks, inside⟩ := shapes _ among
  obtain ⟨first, head, mark⟩ := (Option.any_eq_true _ _).1 marks
  simp only [isMark, Bool.and_eq_true, Bool.not_eq_true', bne_iff_ne] at mark
  obtain ⟨⟨⟨⟨blank, digit⟩, quotes⟩, tick⟩, word⟩ := mark
  obtain ⟨t, rfl⟩ := List.head?_eq_some_iff.1 head
  have next : (t ++ behind).head?.any alters = false := by
    cases t with
    | nil => exact spaced.any (by decide)
    | cons c t => exact inside
  have isOf (start : Nat) : (scanPunctuation start first (t ++ behind)).IsOf kind t := by
    refine scanPunctuation_isOf_iff.2 ⟨among, fun c behindHead longer => ?_⟩
    obtain rfl := spaced c behindHead
    obtain ⟨entry, amongLonger, text⟩ := List.mem_map.1 longer
    have noSpace := (shapes entry amongLonger).1
    rw [text] at noSpace
    simp at noSpace
  refine ⟨first, t, rfl, fun start => ?_⟩
  by_cases slash : first = '/'
  · subst slash
    rw [scan_slash, if_neg, if_neg]
    · exact isOf start
    · intro star
      rw [star] at next
      cases next
    · intro slash
      rw [slash] at next
      cases next
  · have noNumber : ¬ (first.isDigit ∨ (first = '.' ∧ (t ++ behind).head?.any Char.isDigit)) := by
      rintro (is | ⟨-, is⟩)
      · rw [digit] at is
        cases is
      · cases eq : (t ++ behind).head? with
        | none => simp [eq] at is
        | some c => simp_all [alters]
    rw [scan_of_ne_slash start slash, if_neg (by simp [blank]), if_neg noNumber,
      if_neg (by simp [quotes]), if_neg tick, if_neg (by simp [word])]
    exact isOf start

end Lexeme

end ScriptLint
