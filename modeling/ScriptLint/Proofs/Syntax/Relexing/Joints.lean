import Mathlib.Data.List.Nodup
import ScriptLint.Syntax.Grammar.Operator
import ScriptLint.Proofs.Syntax.Relexing.Closed

/-!
# Where lexemes end

What comes behind a lexeme matters only through its first character: `joints` are the classes of
characters that would be read with a lexeme of a given kind. A number and a piece of punctuation are
read off before another text too if none of these classes came in with its first character
(`taken_number_of_softens`, `Scan.IsOf.soften_punctuation`). Only the exponent of a number is found by
more than one character.
-/

namespace ScriptLint.Lexeme

open Text

variable {t behind : Text}

theorem taken_scanFraction (cs : Text) : (scanFraction cs).taken =
    if cs.head? = some '.' then cs.take 1 ++ (cs.drop 1).takeWhile isDigitPart else [] := by
  unfold scanFraction
  split <;> rfl

theorem taken_scanExponent_digit {e d : Char} (mark : isExponentMark e = true)
    (digit : d.isDigit = true) (cs : Text) :
    (scanExponent (e :: d :: cs)).taken = e :: (d :: cs).takeWhile isDigitPart := by
  have lead : exponentLead (e :: d :: cs) = 1 := by simp [exponentLead, mark, digit]
  rw [scanExponent, lead]
  rfl

theorem taken_scanExponent_sign {e s d : Char} (mark : isExponentMark e = true)
    (other : s.isDigit = false) (sign : isSign s = true) (digit : d.isDigit = true) (cs : Text) :
    (scanExponent (e :: s :: d :: cs)).taken = e :: s :: (d :: cs).takeWhile isDigitPart := by
  have lead : exponentLead (e :: s :: d :: cs) = 2 := by
    simp [exponentLead, mark, other, sign, digit]
  rw [scanExponent, lead]
  rfl

theorem taken_scanExponent_zero {cs : Text} (none : exponentLead cs = 0) :
    (scanExponent cs).taken = [] := by
  rw [scanExponent, none]
  rfl

/-- What introduces an exponent is a mark before a digit, maybe with a sign between. -/
theorem exponentLead_cases (cs : Text) : exponentLead cs = 0 ∨
    (∃ e d ds, cs = e :: d :: ds ∧ isExponentMark e = true ∧ d.isDigit = true) ∨
    ∃ e s d ds, cs = e :: s :: d :: ds ∧ isExponentMark e = true ∧ s.isDigit = false ∧
      isSign s = true ∧ d.isDigit = true := by
  fun_cases exponentLead cs with
  | case1 => exact .inl rfl
  | case2 e d ds mark digit => exact .inr (.inl ⟨e, d, ds, rfl, by simpa using mark, digit⟩)
  | case3 e s ds mark other signed =>
    obtain ⟨sign, digit⟩ := Bool.and_eq_true_iff.1 signed
    cases ds with
    | nil => cases digit
    | cons d ds =>
      exact .inr (.inr ⟨e, s, d, ds, rfl, by simpa using mark, by simpa using other, sign, digit⟩)
  | case4 => exact .inl rfl
  | case5 => exact .inl rfl

theorem exponentLead_of_head {cs : Text} (head : cs.head?.any isExponentMark = false) :
    exponentLead cs = 0 := by
  rcases exponentLead_cases cs with none | ⟨e, d, ds, rfl, mark, -⟩ | ⟨e, s, d, ds, rfl, mark, -⟩
  · exact none
  · simp [mark] at head
  · simp [mark] at head

/-- Whether no class of characters came in with the first character of what is behind. -/
def Softens (classes : List (Char → Bool)) (behind after : Text) : Prop :=
  ∀ p ∈ classes, behind.head?.any p = false → after.head?.any p = false

section
variable {classes : List (Char → Bool)} {after : Text}

theorem softens_of_head (same : after.head? = behind.head?) : Softens classes behind after :=
  fun p _ h => by rwa [same]

theorem Softens.append (softens : Softens classes behind after) (t : Text) :
    Softens classes (t ++ behind) (t ++ after) := by
  cases t with
  | nil => exact softens
  | cons c t => exact softens_of_head rfl

/-- A character that did not stand behind does not come in there. -/
theorem Softens.ne {c : Char} (among : (· == c) ∈ classes) (softens : Softens classes behind after)
    (other : behind.head? ≠ some c) : after.head? ≠ some c := by
  intro head
  have apart : behind.head?.any (· == c) = false := by
    cases eq : behind.head? with
    | none => rfl
    | some d => exact beq_false_of_ne fun same => other (eq.trans (congrArg some same))
  simpa [head] using softens _ among apart

theorem taken_run_of_softens {p : Char → Bool} (among : p ∈ classes)
    (softens : Softens classes behind after) (taken : (Cut.run p (t ++ behind)).taken = t) :
    (Cut.run p (t ++ after)).taken = t := by
  obtain ⟨all, ends⟩ := Cut.taken_run_iff.1 taken
  exact Cut.taken_run_iff.2 ⟨all, softens p among ends⟩

theorem taken_fraction_of_softens (point : (· == '.') ∈ classes) (digit : isDigitPart ∈ classes)
    (softens : Softens classes behind after) (taken : (scanFraction (t ++ behind)).taken = t) :
    (scanFraction (t ++ after)).taken = t := by
  rw [taken_scanFraction] at taken ⊢
  cases t with
  | nil =>
    have head : behind.head? ≠ some '.' := by
      intro first
      rw [List.nil_append, if_pos first] at taken
      obtain ⟨cs, rfl⟩ := List.head?_eq_some_iff.1 first
      cases taken
    exact if_neg (softens.ne point head)
  | cons c t =>
    by_cases first : (c :: t ++ behind).head? = some '.'
    · rw [if_pos first] at taken
      have first' : (c :: t ++ after).head? = some '.' := first
      rw [if_pos first']
      have inner : (t ++ behind).takeWhile isDigitPart = t := (List.cons.inj taken).2
      exact congrArg (c :: ·) (taken_run_of_softens digit softens inner)
    · rw [if_neg first] at taken
      cases taken

theorem isDigitPart_of_isDigit {c : Char} (digit : c.isDigit = true) : isDigitPart c = true := by
  simp [isDigitPart, digit]

theorem taken_exponent_of_softens (digit : isDigitPart ∈ classes)
    (softens : Softens classes behind after) (lead : exponentLead behind = 0 → exponentLead after = 0)
    (taken : (scanExponent (t ++ behind)).taken = t) : (scanExponent (t ++ after)).taken = t := by
  generalize whole : t ++ behind = cs at taken
  rcases exponentLead_cases cs with none | ⟨e, d, ds, rfl, mark, first⟩ |
    ⟨e, s, d, ds, rfl, mark, other, sign, first⟩
  · obtain rfl : [] = t := (taken_scanExponent_zero none).symm.trans taken
    exact taken_scanExponent_zero (lead (by rwa [show behind = cs from whole]))
  · rw [taken_scanExponent_digit mark first,
      List.takeWhile_cons_of_pos (isDigitPart_of_isDigit first)] at taken
    subst taken
    have rest : ds.takeWhile isDigitPart ++ behind = ds := by simpa using whole
    have inner : (Cut.run isDigitPart (ds.takeWhile isDigitPart ++ behind)).taken =
        ds.takeWhile isDigitPart := by rw [rest]; rfl
    rw [List.cons_append, List.cons_append, taken_scanExponent_digit mark first,
      List.takeWhile_cons_of_pos (isDigitPart_of_isDigit first)]
    exact congrArg (e :: d :: ·) (taken_run_of_softens digit softens inner)
  · rw [taken_scanExponent_sign mark other sign first,
      List.takeWhile_cons_of_pos (isDigitPart_of_isDigit first)] at taken
    subst taken
    have rest : ds.takeWhile isDigitPart ++ behind = ds := by simpa using whole
    have inner : (Cut.run isDigitPart (ds.takeWhile isDigitPart ++ behind)).taken =
        ds.takeWhile isDigitPart := by rw [rest]; rfl
    rw [List.cons_append, List.cons_append, List.cons_append,
      taken_scanExponent_sign mark other sign first,
      List.takeWhile_cons_of_pos (isDigitPart_of_isDigit first)]
    exact congrArg (e :: s :: d :: ·) (taken_run_of_softens digit softens inner)

end

/-- The classes of characters that would be read with a number if they came right behind it. -/
def numberJoints : List (Char → Bool) := [isRadixMark, isHexPart, isDigitPart, (· == '.')]

theorem taken_number_of_softens {first : Char} {after : Text}
    (softens : Softens numberJoints behind after)
    (lead : exponentLead behind = 0 → exponentLead after = 0)
    (taken : (scanNumber first (t ++ behind)).taken = t) :
    (scanNumber first (t ++ after)).taken = t := by
  have hex : isHexPart ∈ numberJoints := by simp [numberJoints]
  have digit : isDigitPart ∈ numberJoints := by simp [numberJoints]
  have point : (· == '.') ∈ numberJoints := by simp [numberJoints]
  by_cases radix : first = '0' ∧ (t ++ behind).head?.any isRadixMark = true
  · cases t with
    | nil =>
      cases behind with
      | nil => simp at radix
      | cons c cs =>
        rw [scanNumber, if_pos radix] at taken
        cases taken
    | cons c t =>
      have radix' : first = '0' ∧ (c :: t ++ after).head?.any isRadixMark = true := radix
      rw [scanNumber, if_pos radix] at taken
      rw [scanNumber, if_pos radix']
      have inner : (Cut.run isHexPart (t ++ behind)).taken = t := (List.cons.inj taken).2
      exact congrArg (c :: ·) (taken_run_of_softens hex softens inner)
  · have radix' : ¬ (first = '0' ∧ (t ++ after).head?.any isRadixMark = true) := by
      rintro ⟨zero, mark⟩
      have none : (t ++ behind).head?.any isRadixMark = false := by simpa [zero] using radix
      have none' := softens.append t isRadixMark (by simp [numberJoints]) none
      rw [none'] at mark
      cases mark
    rw [scanNumber, if_neg radix] at taken
    rw [scanNumber, if_neg radix']
    split at taken
    · rename_i leading
      rw [if_pos leading]
      obtain ⟨t₁, t₂, rfl, digits, exponent⟩ := Cut.taken_andThen_iff.1 taken
      refine Cut.taken_andThen_iff.2 ⟨t₁, t₂, rfl, ?_, ?_⟩
      · exact taken_run_of_softens digit (softens.append t₂) digits
      · exact taken_exponent_of_softens digit softens lead exponent
    · rename_i digits
      rw [if_neg digits]
      let mantissa (cs : Text) : Cut cs := (Cut.run isDigitPart cs).andThen scanFraction
      obtain ⟨t₁, t₂, rfl, start, exponent⟩ := (Cut.taken_andThen_iff (f := mantissa)).1 taken
      obtain ⟨s₁, s₂, rfl, whole, fraction⟩ := Cut.taken_andThen_iff.1 start
      have behind := softens.append t₂
      refine (Cut.taken_andThen_iff (f := mantissa)).2 ⟨s₁ ++ s₂, t₂, rfl, ?_, ?_⟩
      · refine Cut.taken_andThen_iff.2 ⟨s₁, s₂, rfl, ?_, ?_⟩
        · exact taken_run_of_softens digit (behind.append s₂) whole
        · exact taken_fraction_of_softens point digit behind fraction
      · exact taken_exponent_of_softens digit softens lead exponent

/-- Characters that stand second or third in punctuation. -/
def extenders : List Char := ['=', '&', '|', '?', '+', '-']

/-- The classes of characters that would be read with punctuation. -/
def markJoints : List (Char → Bool) := extenders.map fun c d => d == c

/-- The classes of characters that would be read with a lexeme of a kind if they came right behind
it. -/
def joints : SyntaxKind → List (Char → Bool)
  | .whitespace => [isBlank]
  | .lineComment => [fun c => ! isLineBreak c]
  | .blockComment | .string | .template => []
  | .number => numberJoints
  | .slash => (· == '/') :: (· == '*') :: markJoints
  | .dot => Char.isDigit :: markJoints
  | kind => if kind.namesProperty then [isWordPart] else markJoints

theorem joints_of_word {kind : SyntaxKind} (word : kind.namesProperty = true) :
    joints kind = [isWordPart] := by
  cases kind <;> first | rfl | cases word

theorem markJoints_subset {kind : SyntaxKind} (mark : kind.isPunctuation = true) :
    markJoints ⊆ joints kind := by
  cases kind <;> first | exact List.Subset.refl _ |
    exact List.subset_cons_of_subset _ (List.Subset.refl _) |
    exact List.subset_cons_of_subset _ (List.subset_cons_of_subset _ (List.Subset.refl _)) |
    cases mark

/-- Whether the scan of a lexeme gives it a kind and the rest of its text, without an error. -/
structure Scan.IsOf {cs : Text} (s : Scan cs) (kind : SyntaxKind) (t : Text) : Prop where
  kind : s.kind = kind
  taken : s.cut.taken = t
  clean : s.errors = []

section Punctuation

theorem punctuation_ascends :
    punctuation.Pairwise fun a b => a.1.isPrefixOf b.1 = false := by decide

theorem punctuation_unique : (punctuation.map Prod.fst).Nodup := by decide

/-- Whatever starts a text of punctuation and is one itself can be lengthened to it step by step. -/
theorem punctuation_steps : ∀ a ∈ punctuation, ∀ b ∈ punctuation, a.1.isPrefixOf b.1 = true →
    a.1 = b.1 ∨ b.1.take (a.1.length + 1) ∈ punctuation.map Prod.fst := by decide

/-- Only few characters stand at the end of longer punctuation. -/
theorem last_of_punctuation : ∀ entry ∈ punctuation, entry.1.length ≠ 1 →
    entry.1.getLast?.all (fun c => c ∈ extenders) = true := by decide

variable {start : Nat} {first : Char} {kind : SyntaxKind}

theorem text_of_found {entry : Text × SyntaxKind} {cs : Text} (among : entry ∈ punctuation)
    (starts : entry.1.isPrefixOf (first :: cs) = true) :
    entry.1 = first :: cs.take (entry.1.length - 1) := by
  have some : ∀ entry ∈ punctuation, entry.1 ≠ [] := by decide
  obtain ⟨c, t, eq⟩ := List.exists_cons_of_ne_nil (some entry among)
  rw [eq] at starts ⊢
  obtain ⟨rest, whole⟩ := List.isPrefixOf_iff_prefix.1 starts
  obtain ⟨rfl, rfl⟩ := List.cons.inj whole
  simp

/-- No other punctuation that starts the text lengthens the one that is found. -/
theorem longest_of_found {cs : Text} {found other : Text × SyntaxKind}
    (eq : (punctuation.find? fun e => e.1.isPrefixOf cs) = some found) (among : other ∈ punctuation)
    (starts : other.1 <+: cs) (longer : found.1 <+: other.1) : other = found := by
  obtain ⟨_, earlier, later, table, others⟩ := List.find?_eq_some_iff_append.1 eq
  rw [table] at among
  rcases List.mem_append.1 among with before | behind
  · have missed := others other before
    rw [List.isPrefixOf_iff_prefix.2 starts] at missed
    cases missed
  rcases List.mem_cons.1 behind with same | behind
  · exact same
  · have ascends := punctuation_ascends
    rw [table] at ascends
    have apart := (List.pairwise_cons.1 (List.pairwise_append.1 ascends).2.1).1 other behind
    rw [List.isPrefixOf_iff_prefix.2 longer] at apart
    cases apart

/-- The punctuation that is found is the only one in the table with its text, and no longer one
starts the text. -/
theorem found_iff (entry : Text × SyntaxKind) :
    (punctuation.find? fun e => e.1.isPrefixOf (entry.1 ++ behind)) = some entry ↔
      entry ∈ punctuation ∧
        ∀ c, behind.head? = some c → entry.1 ++ [c] ∉ punctuation.map Prod.fst := by
  constructor
  · intro found
    refine ⟨List.mem_of_find?_eq_some found, fun c head among => ?_⟩
    obtain ⟨longer, among, text⟩ := List.mem_map.1 among
    obtain ⟨rest, rfl⟩ := List.head?_eq_some_iff.1 head
    have same := longest_of_found found among ⟨rest, by simp [text]⟩ ⟨[c], text.symm⟩
    simp [same] at text
  · rintro ⟨among, ends⟩
    have starts : entry.1 <+: entry.1 ++ behind := List.prefix_append _ _
    cases eq : punctuation.find? fun e => e.1.isPrefixOf (entry.1 ++ behind) with
    | none =>
      exact absurd (List.isPrefixOf_iff_prefix.2 starts) (List.find?_eq_none.1 eq entry among)
    | some found =>
      have foundAmong := List.mem_of_find?_eq_some eq
      have foundStarts : found.1 <+: entry.1 ++ behind := by
        have starts := List.find?_some eq
        exact List.isPrefixOf_iff_prefix.1 starts
      rcases List.prefix_or_prefix_of_prefix foundStarts starts with shorter | ⟨rest, whole⟩
      · rw [longest_of_found eq among starts shorter]
      have same : found.1 = entry.1 := by
        rcases punctuation_steps entry among found foundAmong
          (List.isPrefixOf_iff_prefix.2 ⟨rest, whole⟩) with same | step
        · exact same.symm
        cases rest with
        | nil => simpa using whole.symm
        | cons c rest =>
          obtain ⟨tail, joined⟩ := foundStarts
          rw [← whole, List.append_assoc, List.append_cancel_left_eq] at joined
          have next : entry.1 ++ [c] = found.1.take (entry.1.length + 1) := by
            rw [← whole, List.take_length_add_append]
            rfl
          exact absurd (next ▸ step) (ends c (by rw [← joined]; rfl))
      exact congrArg some (List.inj_on_of_nodup_map punctuation_unique foundAmong among same)

/-- Punctuation is read off a text if no more of the text is punctuation. -/
theorem scanPunctuation_isOf_iff :
    (scanPunctuation start first (t ++ behind)).IsOf kind t ↔
      (first :: t, kind) ∈ punctuation ∧
        ∀ c, behind.head? = some c → first :: t ++ [c] ∉ punctuation.map Prod.fst := by
  rw [← found_iff (first :: t, kind)]
  constructor
  · rintro ⟨kind', taken, clean⟩
    unfold scanPunctuation at kind' taken clean
    cases found : punctuation.find? fun e => e.1.isPrefixOf (first :: (t ++ behind)) with
    | none =>
      rw [found] at clean
      cases clean
    | some entry =>
      rw [found] at kind' taken
      have starts : entry.1.isPrefixOf (first :: (t ++ behind)) = true := by
        have := List.find?_some found
        exact this
      have text := text_of_found (List.mem_of_find?_eq_some found) starts
      obtain ⟨text', kind''⟩ := entry
      obtain rfl : kind'' = kind := kind'
      have whole : text' = first :: t := text.trans (congrArg (first :: ·) taken)
      subst whole
      exact found
  · intro found
    have found' : (punctuation.find? fun e => e.1.isPrefixOf (first :: (t ++ behind))) =
        some (first :: t, kind) := found
    unfold scanPunctuation
    rw [found']
    exact ⟨rfl, by simp [Cut.take], rfl⟩

theorem namesProperty_ofReserved (word : String) :
    ((SyntaxKind.ofReserved? word).getD .ident).namesProperty = true := by
  have all : ∀ entry ∈ SyntaxKind.reserved, entry.2.namesProperty = true := by decide
  cases found : SyntaxKind.ofReserved? word with
  | none => rfl
  | some kind =>
    obtain ⟨before, after, among, _⟩ := List.lookup_eq_some_iff.1 found
    exact all _ (among ▸ List.mem_append_right before List.mem_cons_self)

theorem isPunctuation_of_mem : ∀ entry ∈ punctuation, entry.2.isPunctuation = true := by decide

theorem Scan.IsOf.soften_punctuation {after : Text} (start' : Nat)
    (isOf : (scanPunctuation start first (t ++ behind)).IsOf kind t)
    (softens : Softens (joints kind) behind after) :
    (scanPunctuation start' first (t ++ after)).IsOf kind t := by
  obtain ⟨among, ends⟩ := scanPunctuation_isOf_iff.1 isOf
  refine scanPunctuation_isOf_iff.2 ⟨among, fun c head longer => ?_⟩
  obtain ⟨entry, amongLonger, text⟩ := List.mem_map.1 longer
  have last := last_of_punctuation entry amongLonger (by simp [text])
  rw [text, List.getLast?_concat] at last
  have extends' : c ∈ extenders := by simpa using last
  have joint : (· == c) ∈ joints kind := markJoints_subset (isPunctuation_of_mem _ among)
    (List.mem_map.2 ⟨c, extends', rfl⟩)
  exact softens.ne joint (fun before => ends c before longer) head

end Punctuation

end ScriptLint.Lexeme
