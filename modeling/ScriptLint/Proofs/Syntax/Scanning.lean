import ScriptLint.Proofs.Source.Partition
import ScriptLint.Proofs.Syntax.Relexing
import ScriptLint.Proofs.Syntax.Scanner

/-!
# The scanner reads lexemes

Whatever the scanner does, it stands between two characters of the text (`ScannerState.At`) and goes
past those that are cut off next (`ScannerState.past`), so no look at the text fails. Every loop takes
less turns than there are characters left. Where the scanner calls itself for a string or a template
inside of a template, the machine that reads templates has one more thing open, and what is below it
waits until this is closed (`Steps.append`, `Steps.string`).
-/

namespace ScriptLint

open Text Lexeme

/-- Whether a state is at a place of a text that some text comes behind. -/
def ScannerState.At (s : ScannerState) (text behind : Text) : Prop :=
  ∃ before, text = before ++ behind ∧ s.offset = Text.size before

/-- The state behind a text that was read. -/
def ScannerState.past (s : ScannerState) (taken : Text) (errors : List SyntaxError) : ScannerState :=
  { s with offset := s.offset + Text.size taken, errors := s.errors ++ errors }

namespace ScannerState

variable {s : ScannerState} {text taken taken' cs : Text} {errors errors' : List SyntaxError}

theorem At.past (taken : Text) (at_ : s.At text (taken ++ cs)) (errors : List SyntaxError) :
    (s.past taken errors).At text cs := by
  obtain ⟨before, whole, offset⟩ := at_
  exact ⟨before ++ taken, by rw [whole, List.append_assoc], by
    rw [ScannerState.past, size_append, offset]⟩

theorem At.of_offset (at_ : s.At text cs) {s' : ScannerState} (same : s'.offset = s.offset) :
    s'.At text cs := by
  obtain ⟨before, whole, offset⟩ := at_
  exact ⟨before, whole, same.trans offset⟩

theorem At.pastCut (at_ : s.At text cs) (cut : Cut cs) (errors : List SyntaxError) :
    (s.past cut.taken errors).At text cut.rest :=
  At.past cut.taken (cut.joined.symm ▸ at_) errors

@[simp] theorem past_nil : s.past [] [] = s := by simp [ScannerState.past]

@[simp] theorem past_past :
    (s.past taken errors).past taken' errors' = s.past (taken ++ taken') (errors ++ errors') := by
  simp [ScannerState.past, Nat.add_assoc]

@[simp] theorem offset_past : (s.past taken errors).offset = s.offset + Text.size taken := rfl

end ScannerState

/-! ## What is open while a template is read -/

namespace Lexeme

/-- The errors of a string that starts at one offset and is left at another. -/
def unclosedString (start stop : Nat) (closed : Bool) : List SyntaxError :=
  if closed then [] else [⟨.unterminatedString, ⟨start, stop⟩⟩]

theorem Open.after_of_isLineBreak {offset start braces : Nat} {c : Char} (breaks : isLineBreak c = true) :
    (Open.template start (braces + 1)).after offset c = ([.template start (braces + 1)], []) := by
  rcases (by simpa [isLineBreak] using breaks : c = '\n' ∨ c = '\r') with rfl | rfl <;> rfl

/-- A string in a substitution is read like one outside, even if a line break ends it. -/
theorem Steps.string {quote : Char} (quotes : isQuote quote = true) (begun : Nat)
    {offset start braces : Nat}
    {opens : List Open} {cs taken rest : Text} {errors : List SyntaxError}
    (later : Steps (offset + Text.size (scanString quote cs).1.taken)
      (.template start (braces + 1) :: opens) (scanString quote cs).1.rest taken rest errors) :
    Steps offset (.quoted begun quote :: .template start (braces + 1) :: opens) cs
      ((scanString quote cs).1.taken ++ taken) rest
      (unclosedString begun (offset + Text.size (scanString quote cs).1.taken)
        (scanString quote cs).2 ++ errors) := by
  fun_induction scanString quote cs generalizing offset with
  | case1 =>
    cases later
    exact .ended offset _ _
  | case2 c cs =>
    rename_i ih
    have inner := @ih (offset + '\\'.utf8Size + c.utf8Size)
      (by simpa [Cut.cons, Nat.add_assoc] using later)
    have whole := Steps.escape (o := .quoted begun quote) rfl inner
    simpa [Cut.cons, Nat.add_assoc] using whole
  | case3 c cs _ broken =>
    have plain : c ≠ '\\' := by
      rintro rfl
      cases broken
    have stays : (Open.template start (braces + 1)).after offset c =
        ([.template start (braces + 1)], []) := Open.after_of_isLineBreak broken
    have ends : (Open.quoted begun quote).after offset c =
        ([], [⟨.unterminatedString, ⟨begun, offset⟩⟩]) := by simp [Open.after, broken]
    cases later with
    | escape => exact absurd rfl plain
    | enter _ enters => cases enters
    | char _ _ later =>
      have whole := @Steps.char offset (.quoted begun quote) (.template start (braces + 1) :: opens) c cs
        _ _ _ (fun _ escape => plain escape.1) (fun _ _ => rfl) (by simpa [stays, ends, Cut.none] using later)
      simpa [stays, ends, unclosedString, Cut.none] using whole
  | case4 cs _ unbroken =>
    have ends : (Open.quoted begun quote).after offset quote = ([], []) := by
      simp [Open.after, unbroken]
    have whole := @Steps.char offset (.quoted begun quote) (.template start (braces + 1) :: opens)
      quote cs _ _ _ (fun _ escape => Open.ne_backslash_of_isQuote quotes escape.1) (fun _ _ => rfl)
      (by simpa [ends, Cut.cons, Cut.none] using later)
    simpa [ends, unclosedString, Cut.cons, Cut.none] using whole
  | case5 c cs other unbroken inside =>
    rename_i ih
    have stays : (Open.quoted begun quote).after offset c = ([.quoted begun quote], []) := by
      simp [Open.after, unbroken, inside]
    have inner := @ih (offset + c.utf8Size) (by simpa [Cut.cons, Nat.add_assoc] using later)
    have plain : cs ≠ [] → ¬ (c = '\\' ∧ (Open.quoted begun quote).escapes = true) := by
      intro some escape
      obtain ⟨d, ds, rfl⟩ := List.exists_cons_of_ne_nil some
      exact other d ds escape.1 rfl
    have whole := @Steps.char offset (.quoted begun quote) (.template start (braces + 1) :: opens)
      c cs _ _ _ plain (fun _ _ => rfl)
      (by simpa [stays] using inner)
    simpa [stays, Cut.cons, Nat.add_assoc] using whole

end Lexeme

namespace Scanner

open ScannerState

variable {α β : Type} {m : Scanner α} {a : α} {s s' : ScannerState} {text cs : Text} {bound : Nat}

/-- A routine that comes back leaves the rest to what is run after it. -/
theorem run_bind (ends : m s = (pure a : Scanner α) s') (k : α → Scanner β) :
    (m >>= k) s = k a s' := by
  show ExceptT.bind (m s) _ = _
  rw [ends]
  rfl

/-! ## Looking ahead -/

theorem run_here : here s = (pure s.offset : Scanner Nat) s := rfl

section
variable (at_ : s.At text cs)
include at_

theorem run_rest : rest text s = (pure cs : Scanner Text) s := by
  obtain ⟨before, rfl, offset⟩ := at_
  rw [rest, run_bind run_here, offset]
  simp only [split?_size]

theorem run_peek : peek text s = (pure cs.head? : Scanner (Option Char)) s :=
  run_bind (run_rest at_) _

theorem run_nth (n : Nat) : nth text n s = (pure cs[n]? : Scanner (Option Char)) s :=
  run_bind (run_rest at_) _

theorem run_comes (pattern : Text) :
    comes text pattern s = (pure (pattern.isPrefixOf cs) : Scanner Bool) s :=
  run_bind (run_rest at_) _

theorem run_radix? : radix? text s =
    (pure ((slice? cs 0 2).map fun mark => mark.map Char.toLower) : Scanner (Option Text)) s :=
  run_bind (run_rest at_) _

theorem run_bump : bump text s = (pure () : Scanner Unit) (s.past (cs.take 1) []) := by
  rw [bump, run_bind (run_peek at_)]
  cases cs with
  | nil => exact congrArg (pure () : Scanner Unit) past_nil.symm
  | cons c cs => simp [advance, ScannerState.past]; rfl

end

theorem run_advance {bytes : Nat} (taken : Text) (width : bytes = Text.size taken) :
    advance bytes s = (pure () : Scanner Unit) (s.past taken []) := by
  rw [width]
  show _ = (pure () : Scanner Unit) { s with
    offset := s.offset + Text.size taken, errors := s.errors ++ [] }
  rw [List.append_nil]
  rfl

theorem run_advance_char (c : Char) :
    advance c.utf8Size s = (pure () : Scanner Unit) (s.past [c] []) :=
  run_advance [c] (by simp)

theorem run_advance_one {c : Char} (narrow : c.utf8Size = 1) :
    advance 1 s = (pure () : Scanner Unit) (s.past [c] []) :=
  narrow ▸ run_advance_char c

theorem run_note (problem : SyntaxProblem) (start : Nat) :
    note problem start s = (pure () : Scanner Unit) (s.past [] [⟨problem, ⟨start, s.offset⟩⟩]) := rfl

/-- A backslash takes the next character with it, if there is one. -/
theorem run_escape (at_ : s.At text ('\\' :: cs)) (m : Scanner β) :
    (do advance 1; bump text; m) s = m (s.past ('\\' :: cs.take 1) []) := by
  have later := At.past ['\\'] at_ []
  rw [run_bind (run_advance_one (c := '\\') (by decide)), run_bind (run_bump later), past_past]
  rfl

theorem run_push (kind : SyntaxKind) (start : Nat) : push kind start s = (pure () : Scanner Unit)
    { s with tokens := s.tokens ++ [(kind, ⟨start, s.offset⟩)] } := rfl

/-! ## Loops -/

theorem run_eatWhile (p : Char → Bool) (at_ : s.At text cs) (enough : cs.length < bound) :
    eatWhile text p bound s = (pure () : Scanner Unit) (s.past (cs.takeWhile p) []) := by
  induction bound generalizing s cs with
  | zero => omega
  | succ bound ih =>
    rw [eatWhile, run_bind (run_peek at_)]
    cases cs with
    | nil => rw [List.takeWhile_nil, past_nil]; rfl
    | cons c cs =>
      simp only [List.head?_cons]
      split
      · rename_i holds
        rw [run_bind (run_advance_char c), ih (At.past [c] at_ [])
          (Nat.lt_of_succ_lt_succ enough), past_past, List.takeWhile_cons_of_pos holds]
        rfl
      · rename_i fails
        rw [List.takeWhile_cons_of_neg fails, past_nil]

theorem run_stringRest {quote : Char} (quotes : isQuote quote = true) (start : Nat)
    (at_ : s.At text cs) (enough : cs.length < bound) :
    stringRest text quote start bound s = (pure () : Scanner Unit)
      (s.past (scanString quote cs).1.taken (unclosedString start
        (s.offset + Text.size (scanString quote cs).1.taken) (scanString quote cs).2)) := by
  induction bound generalizing s cs with
  | zero => omega
  | succ bound ih =>
    rw [stringRest, run_bind (run_peek at_)]
    unfold scanString
    split
    · rfl
    · rename_i c cs
      have later := At.past ['\\', c] at_ []
      simp only [List.head?_cons, show isLineBreak '\\' = false by decide, Bool.false_eq_true, if_false,
        if_true]
      rw [run_escape at_, List.take_succ_cons, List.take_zero, ih later (by simp at enough; omega)]
      simp [Cut.cons, Nat.add_assoc]
    · rename_i c cs alone
      have later := At.past [c] at_ []
      simp only [List.head?_cons]
      split
      · simp [Cut.none]
        rfl
      split
      · rename_i escape
        subst escape
        have none : cs = [] := by
          cases cs with
          | nil => rfl
          | cons c cs => exact (alone c cs rfl rfl).elim
        subst none
        rw [if_neg (Open.ne_backslash_of_isQuote quotes).symm, run_escape at_, List.take_nil,
          ih (show At _ text [] from later) (by simp at enough; omega)]
        simp [Cut.cons, Nat.add_assoc]
      · split
        · rw [run_advance_char]
          simp [Cut.cons, Cut.none, unclosedString]
        · rw [run_bind (run_advance_char c), ih later (Nat.lt_of_succ_lt_succ enough)]
          simp [Cut.cons, Nat.add_assoc]

theorem run_string {quote : Char} (quotes : isQuote quote = true) (at_ : s.At text (quote :: cs))
    (enough : cs.length < bound) :
    string text quote bound s = (pure .string : Scanner SyntaxKind)
      (s.past (quote :: (scanString quote cs).1.taken) (unclosedString s.offset
        (s.offset + quote.utf8Size + Text.size (scanString quote cs).1.taken) (scanString quote cs).2)) := by
  have later := At.past [quote] at_ []
  rw [string, run_bind run_here, run_bind (run_advance_char quote),
    run_bind (run_stringRest quotes s.offset later enough), past_past]
  simp

/-! ## Templates -/

/-- Whether some turns are enough for the rests of templates that are shorter. The scanner reads them in
the steps in which they are read when other things may be open below. -/
def ReadsTemplates (text : Text) (bound : Nat) : Prop :=
  ∀ {s : ScannerState} {cs : Text} {start depth : Nat} {taken behind : Text} {errors : List SyntaxError},
    s.At text cs → cs.length < bound → Steps s.offset [.template start depth] cs taken behind errors →
      templateRest text bound start depth s = (pure () : Scanner Unit) (s.past taken errors)

section
variable {c : Char} {start depth : Nat} {taken behind : Text} {errors : List SyntaxError}
  (reads : ReadsTemplates text bound) (at_ : s.At text (c :: cs)) (fewer : cs.length < bound)
include reads at_ fewer

/-- A character that leaves the template open, with the same braces or one more or less. -/
theorem run_turn {depth' : Nat}
    (later : Steps (s.offset + c.utf8Size) (((Open.template start depth).after s.offset c).1 ++ []) cs
      taken behind errors)
    (after : (Open.template start depth).after s.offset c = ([.template start depth'], [])) :
    (do advance c.utf8Size; templateRest text bound start depth') s = (pure () : Scanner Unit)
      (s.past (c :: taken) (((Open.template start depth).after s.offset c).2 ++ errors)) := by
  rw [after] at later ⊢
  rw [run_bind (run_advance_char c), reads (At.past [c] at_ []) fewer (by simpa using later), past_past]
  rfl

/-- What comes behind a string or a template inside of a template. -/
theorem run_back (cut : Cut cs) (inner : List SyntaxError)
    (steps : Steps (s.offset + c.utf8Size + Text.size cut.taken) [.template start depth] cut.rest taken
      behind errors) :
    templateRest text bound start depth (s.past (c :: cut.taken) inner) =
      (pure () : Scanner Unit) (s.past (c :: (cut.taken ++ taken)) (inner ++ errors)) := by
  have there : (s.past (c :: cut.taken) inner).At text cut.rest := At.pastCut at_ (cut.cons c) inner
  rw [reads there (Nat.lt_of_le_of_lt cut.length_rest_le fewer)
    (by simpa [Nat.add_assoc] using steps), past_past]
  rfl

/-- A character on its own outside of the substitutions. -/
theorem run_outside (plain : cs ≠ [] → ¬ (c = '\\' ∧ (Open.template start 0).escapes = true))
    (alone : ∀ d, cs.head? = some d → (Open.template start 0).entersSubstitution c d = none)
    (later : Steps (s.offset + c.utf8Size) (((Open.template start 0).after s.offset c).1 ++ []) cs
      taken behind errors) :
    templateRest text (bound + 1) start 0 s = (pure () : Scanner Unit)
      (s.past (c :: taken) (((Open.template start 0).after s.offset c).2 ++ errors)) := by
  have next := At.past [c] at_ []
  rw [templateRest, run_bind (run_peek at_)]
  simp only [List.head?_cons, if_true]
  split
  · rename_i escape
    subst escape
    have none : cs = [] := by
      by_contra some
      exact plain some ⟨rfl, rfl⟩
    subst none
    rw [run_escape at_, List.take_nil, reads (show At _ text [] from next) fewer later, past_past]
    rfl
  split
  · rename_i ticked
    subst ticked
    cases later
    exact run_advance_one (by decide)
  · rename_i outside
    rw [run_bind (run_nth at_ 1), if_neg, run_turn reads at_ fewer later (by simp [Open.after, outside])]
    rintro ⟨rfl, second⟩
    have entered := alone '{' (by simpa [List.head?_eq_getElem?] using second)
    cases entered

/-- A character on its own in a substitution, and with it the string or template that it starts. -/
theorem run_inside
    (later : Steps (s.offset + c.utf8Size) (((Open.template start (depth + 1)).after s.offset c).1 ++ [])
      cs taken behind errors) :
    templateRest text (bound + 1) start (depth + 1) s = (pure () : Scanner Unit)
      (s.past (c :: taken) (((Open.template start (depth + 1)).after s.offset c).2 ++ errors)) := by
  have turn {depth' : Nat} (after : (Open.template start (depth + 1)).after s.offset c =
      ([.template start depth'], [])) := run_turn reads at_ fewer later after
  rw [templateRest, run_bind (run_peek at_)]
  simp only [List.head?_cons, Nat.succ_ne_zero, if_false]
  split
  · rename_i opened
    subst opened
    exact turn rfl
  rename_i unopened
  split
  · rename_i closed
    subst closed
    exact turn rfl
  rename_i unclosed
  split
  · rename_i quotes
    have behind := steps_scanTemplate (s.offset + c.utf8Size + Text.size (scanString c cs).1.taken)
      [.template start (depth + 1)] (scanString c cs).1.rest
    rw [Open.after_quote quotes] at later ⊢
    obtain ⟨rfl, -, rfl⟩ := later.unique (Steps.string quotes s.offset behind)
    rw [run_bind (run_string quotes at_ fewer), run_back reads at_ fewer (scanString c cs).1 _ behind]
    rfl
  rename_i unquoted
  split
  · rename_i ticked
    subst ticked
    have inner := steps_scanTemplate (s.offset + backtick.utf8Size) [.template s.offset 0] cs
    have whole := inner.append (steps_scanTemplate _ [.template start (depth + 1)] _)
    obtain ⟨rfl, -, rfl⟩ := later.unique whole
    rw [run_bind run_here, run_bind (run_advance_one (c := backtick) (by decide)),
      run_bind (reads (At.past [backtick] at_ []) fewer (by simpa using inner)), past_past]
    exact run_back reads at_ fewer (scanTemplate _ _ cs).1 _ (steps_scanTemplate _ _ _)
  · rename_i outside
    exact turn (by simp [Open.after, unopened, unclosed, unquoted, outside])

end

theorem readsTemplates (text : Text) (bound : Nat) : ReadsTemplates text bound := by
  induction bound with
  | zero => exact fun _ enough => absurd enough (Nat.not_lt_zero _)
  | succ bound ih =>
    intro s cs start depth taken behind errors at_ enough steps
    cases steps with
    | ended =>
      rw [templateRest, run_bind (run_peek at_)]
      rfl
    | @escape _ _ _ c cs taken _ _ escapes later =>
      obtain rfl : depth = 0 := by simpa [Open.escapes] using escapes
      rw [templateRest, run_bind (run_peek at_)]
      simp only [List.head?_cons, if_true]
      rw [run_escape at_, List.take_succ_cons, List.take_zero,
        ih (At.past ['\\', c] at_ []) (by simp at enough; omega)
          (by simpa [Nat.add_assoc] using later), past_past]
      rfl
    | @enter _ _ _ _ c d cs taken _ _ _ enters later =>
      obtain ⟨_, same, rfl, rfl, rfl⟩ := Open.entersSubstitution_eq_some enters
      obtain ⟨rfl, rfl⟩ := Open.template.inj same
      have turn := ih (At.past ['$', '{'] at_ []) (by simp at enough; omega)
        (by simpa [Nat.add_assoc] using later)
      rw [templateRest, run_bind (run_peek at_)]
      simp only [List.head?_cons, if_true, if_neg (show ¬ '$' = '\\' by decide),
        if_neg (show ¬ '$' = backtick by decide)]
      rw [run_bind (run_nth at_ 1), if_pos ⟨trivial, rfl⟩,
        run_bind (run_advance ['$', '{'] (by decide)), turn, past_past]
      rfl
    | char plain alone later =>
      have fewer := Nat.lt_of_succ_lt_succ enough
      cases depth with
      | zero => exact run_outside ih at_ fewer plain alone later
      | succ depth => exact run_inside ih at_ fewer later

/-! ## Lexemes -/

/-- A comment is closed where its closing is found, and otherwise takes all there is. -/
theorem find?_scanComment (cs : Text) :
    (scanComment cs).2 = (find? ['*', '/'] cs).isSome ∧
      Text.size (scanComment cs).1.taken = (find? ['*', '/'] cs).elim (Text.size cs) (· + 2) := by
  fun_induction scanComment cs with
  | case1 => exact ⟨rfl, rfl⟩
  | case2 => exact ⟨rfl, rfl⟩
  | case3 c cs alone =>
    rename_i ih
    have goesOn : ¬ (['*', '/'].isPrefixOf (c :: cs)) = true := by
      intro closes
      obtain ⟨rest, whole⟩ := List.isPrefixOf_iff_prefix.1 closes
      obtain ⟨rfl, rfl⟩ := List.cons.inj whole
      exact alone rest rfl rfl
    rw [find?, if_neg goesOn, Option.isSome_map]
    refine ⟨ih.1, ?_⟩
    simp only [Cut.cons, size_cons]
    rw [ih.2]
    cases find? ['*', '/'] cs with
    | none => rfl
    | some stop => simp [Nat.add_assoc]

theorem run_blockComment (at_ : s.At text ('/' :: '*' :: cs)) :
    blockComment text s.offset s = (pure .blockComment : Scanner SyntaxKind)
      (s.past ('/' :: '*' :: (scanComment cs).1.taken)
        (unfinished .unterminatedComment s.offset '/' ('*' :: (scanComment cs).1.taken)
          (scanComment cs).2)) := by
  have opened := At.past ['/', '*'] at_ []
  obtain ⟨closed, width⟩ := find?_scanComment cs
  rw [blockComment, run_bind (run_advance ['/', '*'] (by decide)), run_bind (run_rest opened)]
  cases found : find? ['*', '/'] cs with
  | some stop =>
    rw [found] at closed width
    have ends : stop + 2 = Text.size (scanComment cs).1.taken := width.symm
    simp only
    rw [run_bind (run_advance _ ends), past_past, closed]
    rfl
  | none =>
    rw [found] at closed width
    obtain ⟨before, rfl, offset⟩ := at_
    have ended : Text.size (before ++ '/' :: '*' :: cs) =
        s.offset + Text.size ('/' :: '*' :: (scanComment cs).1.taken) := by
      rw [size_append, offset, size_cons, size_cons, size_cons, size_cons, width]
      rfl
    simp only
    rw [closed]
    show (pure SyntaxKind.blockComment : Scanner SyntaxKind) ⟨_, _, _⟩ = _
    rw [ended]
    simp [ScannerState.past, unfinished, Nat.add_assoc]

theorem eq_of_toLower {c lower : Char} (same : c.toLower = lower) :
    c = lower ∨ c.val = lower.val - 32 := by
  unfold Char.toLower at same
  split at same
  · exact .inr (by rw [← same]; exact (UInt32.add_sub_cancel _ _).symm)
  · exact .inl same

theorem toLower_eq_zero_iff {c : Char} : c.toLower = '0' ↔ c = '0' := by
  refine ⟨fun lower => ?_, fun same => by rw [same]; rfl⟩
  rcases eq_of_toLower lower with same | same
  · exact same
  · obtain rfl : c = Char.ofNat 16 := Char.ext same
    cases lower

theorem isRadixMark_iff {d : Char} :
    isRadixMark d = true ↔ d.toLower = 'x' ∨ d.toLower = 'o' ∨ d.toLower = 'b' := by
  constructor
  · have all : ['x', 'X', 'o', 'O', 'b', 'B'].all fun m =>
        m.toLower = 'x' ∨ m.toLower = 'o' ∨ m.toLower = 'b' := by decide
    exact fun mark => of_decide_eq_true (List.all_eq_true.1 all d (List.contains_iff_mem.1 mark))
  · rintro (lower | lower | lower) <;> rcases eq_of_toLower lower with rfl | same
    any_goals rfl
    · obtain rfl : d = 'X' := Char.ext same
      rfl
    · obtain rfl : d = 'O' := Char.ext same
      rfl
    · obtain rfl : d = 'B' := Char.ext same
      rfl

theorem utf8Size_of_isRadixMark {m : Char} (mark : isRadixMark m = true) : m.utf8Size = 1 := by
  have all : ['x', 'X', 'o', 'O', 'b', 'B'].all fun m => m.utf8Size = 1 := by decide
  exact of_decide_eq_true (List.all_eq_true.1 all m (List.contains_iff_mem.1 mark))

theorem utf8Size_of_isDigit {c : Char} (digit : c.isDigit = true) : c.utf8Size = 1 := by
  rw [Char.utf8Size_eq_one_iff]
  simp only [Char.isDigit, Bool.and_eq_true, decide_eq_true_eq] at digit
  exact UInt32.le_trans digit.2 (by decide)

/-- What the first two bytes show of a number. -/
theorem radix_iff {c : Char} (narrow : c.utf8Size = 1) (cs : Text) :
    let mark := (slice? (c :: cs) 0 2).map fun mark => mark.map Char.toLower
    (mark = some ['0', 'x'] ∨ mark = some ['0', 'o'] ∨ mark = some ['0', 'b']) ↔
      c = '0' ∧ cs.head?.any isRadixMark = true := by
  dsimp only
  cases cs with
  | nil => simp [slice?, split?, narrow]
  | cons d cs =>
    by_cases narrow' : d.utf8Size = 1
    · have both : slice? (c :: d :: cs) 0 2 = some [c, d] := by simp [slice?, split?, narrow, narrow']
      simp only [both, Option.map_some, List.map_cons, List.map_nil, Option.some.injEq, List.cons.injEq,
        toLower_eq_zero_iff, and_true, List.head?_cons, Option.any_some, isRadixMark_iff, and_or_left]
    · have wide := d.utf8Size_pos
      have uncut : slice? (c :: d :: cs) 0 2 = none := by
        simp [slice?, split?, narrow]
        omega
      have other : ¬ isRadixMark d = true := fun mark => narrow' (utf8Size_of_isRadixMark mark)
      simp [uncut, other]

theorem run_fraction (at_ : s.At text cs) (enough : cs.length < bound) :
    fraction text bound s = (pure () : Scanner Unit) (s.past (scanFraction cs).taken []) := by
  rw [fraction, run_bind (run_peek at_), scanFraction]
  split
  · rename_i point
    obtain ⟨cs, rfl⟩ := List.head?_eq_some_iff.1 point
    have next := At.past ['.'] at_ []
    rw [run_bind (run_advance_one (c := '.') (by decide)),
      run_eatWhile _ next (by simp at enough; omega), past_past]
    rfl
  · exact congrArg (pure () : Scanner Unit) past_nil.symm

theorem run_exponentDigit (at_ : s.At text cs) : exponentDigit text s =
    (pure (if cs[1]?.any isSign then cs[2]? else cs[1]?) : Scanner (Option Char)) s := by
  rw [exponentDigit, run_bind (run_nth at_ 1)]
  split
  · exact run_nth at_ 2
  · rfl

/-- What is read of an exponent depends on whether a sign is behind its mark. -/
theorem exponentLead_eq (cs : Text) : exponentLead cs =
    if cs.head?.any isExponentMark ∧ (if cs[1]?.any isSign then cs[2]? else cs[1]?).any Char.isDigit then
      if cs[1]?.any isSign then 2 else 1
    else 0 := by
  have apart : ∀ d : Char, isSign d = true → ¬ d.isDigit = true := by
    intro d sign
    rcases (by simpa [isSign] using sign : d = '+' ∨ d = '-') with rfl | rfl <;> decide
  match cs with
  | [] => rfl
  | [e] => simp [exponentLead]
  | e :: d :: cs =>
    have third : (e :: d :: cs)[2]? = cs.head? := by simp [List.head?_eq_getElem?]
    simp only [exponentLead, List.head?_cons, third]
    by_cases mark : isExponentMark e = true
    · by_cases sign : isSign d = true
      · simp [mark, sign, apart d sign]
      · simp [mark, sign]
    · simp [mark]

theorem run_exponent (at_ : s.At text cs) (enough : cs.length < bound) :
    exponent text bound s = (pure () : Scanner Unit) (s.past (scanExponent cs).taken []) := by
  rw [exponent, run_bind (run_peek at_), scanExponent, exponentLead_eq]
  by_cases mark : cs.head?.any isExponentMark = true
  · rw [if_pos mark, run_bind (run_exponentDigit at_)]
    by_cases digit : (if cs[1]?.any isSign then cs[2]? else cs[1]?).any Char.isDigit = true
    · rw [if_pos digit, if_pos ⟨mark, digit⟩]
      cases cs with
      | nil => cases mark
      | cons e cs =>
        have one : e.utf8Size = 1 := by
          rcases (by simpa [isExponentMark] using mark : e = 'e' ∨ e = 'E') with rfl | rfl <;> decide
        have next := At.past [e] at_ []
        rw [run_bind (run_advance_one one), run_bind (run_peek next), List.getElem?_cons_succ,
          ← List.head?_eq_getElem?]
        by_cases sign : cs.head?.any isSign = true
        · rw [if_pos sign, if_pos sign]
          cases cs with
          | nil => cases sign
          | cons d cs =>
            have one' : d.utf8Size = 1 := by
              rcases (by simpa [isSign] using sign : d = '+' ∨ d = '-') with rfl | rfl <;> decide
            have last := At.past [e, d] at_ []
            rw [run_bind (run_advance_one one'), past_past]
            refine (run_eatWhile _ last (by simp at enough; omega)).trans ?_
            rw [past_past]
            rfl
        · rw [if_neg sign, if_neg sign]
          refine (run_eatWhile _ next (by simp at enough; omega)).trans ?_
          rw [past_past]
          rfl
    · rw [if_neg digit, if_neg fun both => digit both.2]
      exact congrArg (pure () : Scanner Unit) past_nil.symm
  · rw [if_neg mark, if_neg fun both => mark both.1]
    exact congrArg (pure () : Scanner Unit) past_nil.symm

/-- A number behind its first digits. -/
theorem run_tail (at_ : s.At text cs) (enough : cs.length < bound) :
    (do fraction text bound; exponent text bound; return SyntaxKind.number) s =
      (pure .number : Scanner SyntaxKind)
        (s.past ((scanFraction cs).andThen scanExponent).taken []) := by
  have behind := at_.pastCut (scanFraction cs) []
  have fewer := Nat.lt_of_le_of_lt (scanFraction cs).length_rest_le enough
  rw [run_bind (run_fraction at_ enough), run_bind (run_exponent behind fewer), past_past]
  rfl

theorem run_number {c : Char} (at_ : s.At text (c :: cs)) (enough : (c :: cs).length < bound)
    (first : c.isDigit = true ∨ c = '.') :
    number text bound s = (pure .number : Scanner SyntaxKind)
      (s.past (c :: (scanNumber c cs).taken) []) := by
  have narrow : c.utf8Size = 1 := by
    rcases first with digit | rfl
    · exact utf8Size_of_isDigit digit
    · decide
  rw [number, run_bind (run_radix? at_), scanNumber]
  by_cases radix : c = '0' ∧ cs.head?.any isRadixMark = true
  · rw [if_pos ((radix_iff narrow cs).2 radix), if_pos radix]
    obtain ⟨rfl, mark⟩ := radix
    cases cs with
    | nil => cases mark
    | cons m cs =>
      have last := At.past ['0', m] at_ []
      have width : 2 = Text.size ['0', m] := by
        rw [size_cons, size_cons, size_nil, utf8Size_of_isRadixMark mark]
        rfl
      rw [run_bind (run_advance _ width), run_bind (run_eatWhile _ last (by simp at enough; omega)),
        past_past]
      rfl
  · rw [if_neg fun mark => radix ((radix_iff narrow cs).1 mark), if_neg radix,
      run_bind (run_eatWhile isDigitPart at_ enough)]
    rcases first with digit | rfl
    · have point : c ≠ '.' := by
        rintro rfl
        cases digit
      have read : (c :: cs).takeWhile isDigitPart = c :: cs.takeWhile isDigitPart :=
        List.takeWhile_cons_of_pos (by simp [isDigitPart, digit])
      have ate : (s.past (c :: (Cut.run isDigitPart cs).taken) []).At text
          (Cut.run isDigitPart cs).rest := at_.pastCut ((Cut.run isDigitPart cs).cons c) []
      have fewer : (Cut.run isDigitPart cs).rest.length < bound :=
        Nat.lt_of_le_of_lt (Cut.length_rest_le _) (Nat.lt_of_succ_lt enough)
      rw [read, if_neg point]
      refine (run_tail ate fewer).trans ?_
      rw [past_past]
      simp [Cut.andThen]
    · rw [List.takeWhile_cons_of_neg (by decide), past_nil, if_pos rfl]
      exact run_tail at_ enough

/-- The text that was read last. -/
theorem run_since {taken : Text} (at_ : s.At text (taken ++ cs)) (errors : List SyntaxError) :
    since text s.offset (s.past taken errors) = (pure taken : Scanner Text) (s.past taken errors) := by
  obtain ⟨before, rfl, offset⟩ := at_
  rw [since, run_bind run_here, offset_past, offset, ← List.append_assoc, slice?_of_parts]

theorem run_word {c : Char} (at_ : s.At text (c :: cs)) (enough : (c :: cs).length < bound)
    (starts : isWordStart c = true) :
    word text bound s = (pure (scanWord c cs).kind : Scanner SyntaxKind)
      (s.past (c :: (scanWord c cs).cut.taken) []) := by
  have read : (c :: cs).takeWhile isWordPart = c :: cs.takeWhile isWordPart :=
    List.takeWhile_cons_of_pos (isWordStart_isWordPart starts)
  have whole : (c :: cs.takeWhile isWordPart) ++ cs.dropWhile isWordPart = c :: cs :=
    congrArg (c :: ·) List.takeWhile_append_dropWhile
  rw [word, run_bind run_here, run_bind (run_eatWhile isWordPart at_ enough), read,
    run_bind (run_since (whole.symm ▸ at_) [])]
  rfl

theorem run_punctuator {c : Char} (at_ : s.At text (c :: cs)) :
    punctuator text c s = (pure (scanPunctuation s.offset c cs).kind : Scanner SyntaxKind)
      (s.past (c :: (scanPunctuation s.offset c cs).cut.taken)
        (scanPunctuation s.offset c cs).errors) := by
  have filled : ∀ entry ∈ punctuation, entry.1 ≠ [] := by decide
  rw [punctuator, run_bind (run_rest at_), scanPunctuation]
  cases found : punctuation.find? fun entry => entry.1.isPrefixOf (c :: cs) with
  | none =>
    simp only
    rw [run_bind run_here, run_bind (run_advance_char c), run_bind (run_note _ _), past_past]
    rfl
  | some entry =>
    obtain ⟨mark, kind⟩ := entry
    obtain ⟨rest, whole⟩ := List.isPrefixOf_iff_prefix.1
      (List.find?_some (p := fun entry : Text × SyntaxKind => entry.1.isPrefixOf (c :: cs)) found)
    obtain ⟨d, mark, rfl⟩ :=
      List.exists_cons_of_ne_nil (filled _ (List.mem_of_find?_eq_some found))
    obtain ⟨rfl, rfl⟩ := List.cons.inj whole
    simp only
    rw [run_bind (run_advance _ rfl)]
    simp [Cut.take]

theorem run_template (at_ : s.At text (backtick :: cs)) (enough : cs.length < bound) :
    template text bound s = (pure .template : Scanner SyntaxKind)
      (s.past (backtick :: (scanTemplate (s.offset + backtick.utf8Size) [.template s.offset 0] cs).1.taken)
        (scanTemplate (s.offset + backtick.utf8Size) [.template s.offset 0] cs).2) := by
  have next := At.past [backtick] at_ []
  rw [template, run_bind run_here, run_bind (run_advance_one (c := backtick) (by decide)),
    run_bind (readsTemplates text bound next enough (steps_scanTemplate (s.offset + backtick.utf8Size) _ cs)),
    past_past]
  rfl

theorem run_atNumber {c : Char} (at_ : s.At text (c :: cs)) : atNumber text c s =
    (pure (c.isDigit || (c == '.' && cs.head?.any Char.isDigit)) : Scanner Bool) s := by
  rw [atNumber, run_bind (run_nth at_ 1), List.getElem?_cons_succ, ← List.head?_eq_getElem?]

theorem isPrefixOf_pair {c d e : Char} : [d, e].isPrefixOf (c :: cs) = true ↔ c = d ∧ cs.head? = some e := by
  cases cs <;> simp [List.isPrefixOf, eq_comm (a := d), eq_comm (a := e)]

/-- The scanner reads the lexeme that comes next, whatever it is. -/
theorem run_lexeme {c : Char} (at_ : s.At text (c :: cs)) (enough : (c :: cs).length < bound) :
    lexeme text c bound s = (pure (scan s.offset c cs).kind : Scanner SyntaxKind)
      (s.past (c :: (scan s.offset c cs).cut.taken) (scan s.offset c cs).errors) := by
  have fewer : cs.length < bound := Nat.lt_of_succ_lt enough
  have eats (p : Char → Bool) (kind : SyntaxKind) (holds : p c = true) :
      (do eatWhile text p bound; return kind) s = (pure kind : Scanner SyntaxKind)
        (s.past (c :: (Cut.run p cs).taken) []) := by
    rw [run_bind (run_eatWhile p at_ enough), List.takeWhile_cons_of_pos holds]
    rfl
  rw [lexeme, scan]
  by_cases blank : isBlank c = true
  · rw [if_pos blank, if_pos blank]
    exact eats _ _ blank
  rw [if_neg blank, if_neg blank, run_bind (run_comes at_ _)]
  by_cases line : c = '/' ∧ cs.head? = some '/'
  · rw [if_pos (isPrefixOf_pair.2 line), if_pos line]
    exact eats _ _ (by rw [line.1]; rfl)
  rw [if_neg fun comes => line (isPrefixOf_pair.1 comes), if_neg line, run_bind (run_comes at_ _)]
  by_cases block : c = '/' ∧ cs.head? = some '*'
  · rw [if_pos (isPrefixOf_pair.2 block), if_pos block]
    obtain ⟨rfl, star⟩ := block
    obtain ⟨cs, rfl⟩ := List.head?_eq_some_iff.1 star
    exact run_blockComment at_
  rw [if_neg fun comes => block (isPrefixOf_pair.1 comes), if_neg block, run_bind (run_atNumber at_)]
  by_cases number : c.isDigit = true ∨ c = '.' ∧ cs.head?.any Char.isDigit = true
  · rw [if_pos (by simpa using number), if_pos number]
    exact run_number at_ enough (number.imp_right And.left)
  rw [if_neg (by simpa using number), if_neg number]
  by_cases quotes : isQuote c = true
  · rw [if_pos quotes, if_pos quotes]
    exact run_string quotes at_ fewer
  rw [if_neg quotes, if_neg quotes]
  by_cases ticked : c = backtick
  · rw [if_pos ticked, if_pos ticked]
    subst ticked
    exact run_template at_ fewer
  rw [if_neg ticked, if_neg ticked]
  by_cases starts : isWordStart c = true
  · rw [if_pos starts, if_pos starts]
    exact run_word at_ enough starts
  rw [if_neg starts, if_neg starts]
  exact run_punctuator at_

/-- The scanner reads the lexemes of what comes, with the errors in them. -/
theorem run_tokens (at_ : s.At text cs) (enough : cs.length < bound) :
    tokens text bound s = (pure () : Scanner Unit)
      ⟨s.offset + Text.size cs,
        s.tokens ++ (tokensFrom s.offset (lexFrom s.offset cs).1).map fun t => (t.kind, t.span),
        s.errors ++ (lexFrom s.offset cs).2⟩ := by
  induction bound generalizing s cs with
  | zero => omega
  | succ bound ih =>
    rw [tokens, run_bind (run_peek at_)]
    cases cs with
    | nil => simp [lexFrom, tokensFrom]
    | cons c cs =>
      have there := at_.pastCut ((scan s.offset c cs).cut.cons c) (scan s.offset c cs).errors
      have fewer := Nat.lt_of_le_of_lt (scan s.offset c cs).cut.length_rest_le
        (Nat.lt_of_succ_lt_succ enough)
      have width := (scan s.offset c cs).cut.size_taken_add
      simp only [List.head?_cons]
      rw [run_bind run_here, run_bind (run_lexeme at_ enough), run_bind (run_push _ _)]
      refine Eq.trans (ih (At.of_offset there (by rfl)) fewer) ?_
      rw [lexFrom]
      simp only [ScannerState.past, Cut.cons, tokensFrom, Token.span, Token.stop, size_cons, List.map_cons,
        Nat.add_assoc, List.append_assoc, List.singleton_append, ← width]

end Scanner

open TokenStream

/-- Lexing cuts a text into tokens. The scanner comes to the end of it, and neither looks into the text
inside of a character nor closes a brace that is not open. The tokens reach from the start of the text
to its end, each from where the one before it ends and none of them empty, and each is the stretch of
the text between its offsets, so together they are the text. Every error lies inside of a token, and
for every token that is none there is an error with just its span. -/
theorem lex_partitions (text : Text) :
    (∀ more, scanWithin (text.length + 1 + more) text =
      some (.ok ((ofText text).map fun t => (t.kind, t.span), (lex text).errors))) ∧
    Covers 0 (Text.size text) (ofText text) ∧
    (∀ t ∈ ofText text, slice? text t.start t.stop = some t.text) ∧
    (ofText text).flatMap Token.text = text ∧
    (∀ e ∈ (lex text).errors, ∃ t ∈ ofText text, t.Holds e) ∧
    ∀ t ∈ ofText text, t.kind = .error → ∃ e ∈ (lex text).errors, e.span = t.span := by
  refine ⟨fun more => ?_, covers_ofText text, fun t mem => slice?_of_mem mem, ?_, ?_, ?_⟩
  · have start : (⟨0, [], []⟩ : ScannerState).At text text := ⟨[], rfl, rfl⟩
    rw [scanWithin, Scanner.run_tokens start (by omega)]
    rfl
  · rw [ofText, flatMap_text_tokensFrom]
    exact join_lex text
  · exact fun e mem => (exists_holds_of_mem mem).2
  · intro t mem kind
    obtain ⟨errors, read, among⟩ := exists_read_of_mem mem
    obtain ⟨e, mem, span⟩ := read.covered kind
    exact ⟨e, among e mem, span⟩

end ScriptLint
