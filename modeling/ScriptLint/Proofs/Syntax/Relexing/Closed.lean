import Mathlib.Data.List.Forall2
import ScriptLint.Proofs.Syntax.Lexing

/-!
# Closed lexemes

A comment, a string or a template that is closed ends where it is closed, whatever comes behind it
(`scanComment_closed`, `scanString_closed`, `scanTemplate_closed`). The scanner of templates records
where each template and each substitution starts, so the scans of one text from two offsets are
compared by what is open in them (`Open.Alike`).
-/

namespace ScriptLint

namespace Cut

variable {p : Char → Bool} {t behind after : Text} {f g : (cs : Text) → Cut cs}

/-- A run of characters ends where a character of another class comes. -/
theorem taken_run_iff :
    (run p (t ++ behind)).taken = t ↔ t.all p = true ∧ behind.head?.any p = false := by
  show (t ++ behind).takeWhile p = t ↔ _
  induction t with
  | nil =>
    cases behind with
    | nil => simp
    | cons c cs => by_cases h : p c = true <;> simp [h]
  | cons c t ih => by_cases h : p c = true <;> simp [h, ih]

theorem rest_of_taken {cut : Cut (t ++ behind)} (taken : cut.taken = t) : cut.rest = behind := by
  have joined := cut.joined
  rw [taken] at joined
  exact List.append_cancel_left joined

theorem taken_andThen_iff : ((f (t ++ behind)).andThen g).taken = t ↔
    ∃ t₁ t₂, t = t₁ ++ t₂ ∧ (f (t₁ ++ (t₂ ++ behind))).taken = t₁ ∧ (g (t₂ ++ behind)).taken = t₂ := by
  constructor
  · generalize whole : t ++ behind = cs
    intro taken
    have parts : (f cs).taken ++ (g (f cs).rest).taken = t := taken
    have joined := (f cs).joined
    rw [← parts, List.append_assoc] at whole
    have rest : (g (f cs).rest).taken ++ behind = (f cs).rest :=
      List.append_cancel_left (whole.trans joined.symm)
    exact ⟨_, _, parts.symm, by rw [whole], by rw [rest]⟩
  · rintro ⟨t₁, t₂, rfl, first, second⟩
    have rest := rest_of_taken first
    rw [List.append_assoc]
    show (f _).taken ++ (g (f _).rest).taken = _
    rw [first, rest, second]

end Cut

namespace Lexeme

open Text

variable {t behind : Text}

theorem taken_scanComment_ne_nil {cs : Text} (closed : (scanComment cs).2 = true) :
    (scanComment cs).1.taken ≠ [] := by
  fun_induction scanComment cs with
  | case1 => cases closed
  | case2 | case3 => exact List.cons_ne_nil _ _

/-- A block comment that is closed ends where it does before any text. -/
theorem scanComment_closed (after : Text) {cs : Text} (whole : t ++ behind = cs)
    (taken : (scanComment cs).1.taken = t) (closed : (scanComment cs).2 = true) :
    (scanComment (t ++ after)).1.taken = t ∧ (scanComment (t ++ after)).2 = true := by
  fun_induction scanComment cs generalizing t with
  | case1 => cases closed
  | case2 cs =>
    obtain rfl : ['*', '/'] = t := taken
    exact ⟨rfl, rfl⟩
  | case3 c cs other =>
    rename_i ih
    obtain rfl : c :: (scanComment cs).1.taken = t := taken
    have rest : (scanComment cs).1.taken ++ behind = cs := (List.cons.inj whole).2
    obtain ⟨ih, ihClosed⟩ := ih rest rfl closed
    obtain ⟨d, ds, inner⟩ := List.exists_cons_of_ne_nil (taken_scanComment_ne_nil closed)
    have apart : ∀ es, c = '*' → (scanComment cs).1.taken ++ after = '/' :: es → False := by
      intro es star slash
      rw [inner] at slash rest
      obtain ⟨rfl, -⟩ := List.cons.inj slash
      exact other _ star rest.symm
    rw [List.cons_append, scanComment.eq_3 c _ apart]
    exact ⟨congrArg (c :: ·) ih, ihClosed⟩

theorem taken_scanString_ne_nil {quote : Char} {cs : Text} (closed : (scanString quote cs).2 = true) :
    (scanString quote cs).1.taken ≠ [] := by
  fun_induction scanString quote cs with
  | case1 | case3 => cases closed
  | case2 | case4 | case5 => exact List.cons_ne_nil _ _

/-- A string that is closed ends where it does before any text. -/
theorem scanString_closed (after : Text) {quote : Char} (plain : quote ≠ '\\') {cs : Text}
    (whole : t ++ behind = cs) (taken : (scanString quote cs).1.taken = t)
    (closed : (scanString quote cs).2 = true) :
    (scanString quote (t ++ after)).1.taken = t ∧ (scanString quote (t ++ after)).2 = true := by
  fun_induction scanString quote cs generalizing t with
  | case1 => cases closed
  | case2 c cs =>
    rename_i ih
    obtain rfl : '\\' :: c :: (scanString quote cs).1.taken = t := taken
    have rest : (scanString quote cs).1.taken ++ behind = cs :=
      (List.cons.inj (List.cons.inj whole).2).2
    obtain ⟨ih, ihClosed⟩ := ih rest rfl closed
    exact ⟨congrArg ('\\' :: c :: ·) ih, ihClosed⟩
  | case3 => cases closed
  | case4 cs _ same =>
    obtain rfl : [quote] = t := taken
    have apart : ∀ d ds, quote = '\\' → after = d :: ds → False := fun _ _ eq => absurd eq plain
    rw [List.singleton_append, scanString.eq_3 quote quote after apart, if_neg same, if_pos rfl]
    exact ⟨rfl, rfl⟩
  | case5 c cs other same continues =>
    rename_i ih
    obtain rfl : c :: (scanString quote cs).1.taken = t := taken
    have rest : (scanString quote cs).1.taken ++ behind = cs := (List.cons.inj whole).2
    obtain ⟨ih, ihClosed⟩ := ih rest rfl closed
    obtain ⟨d, ds, inner⟩ := List.exists_cons_of_ne_nil (taken_scanString_ne_nil closed)
    have apart : ∀ e es, c = '\\' → (scanString quote cs).1.taken ++ after = e :: es → False := by
      intro _ _ escape _
      rw [inner] at rest
      exact other _ _ escape rest.symm
    rw [List.cons_append, scanString.eq_3 quote c _ apart, if_neg same, if_neg continues]
    exact ⟨congrArg (c :: ·) ih, ihClosed⟩

namespace Open

/-- Whether two things open differ in the place where they were opened only. -/
inductive Alike : Open → Open → Prop
  | template (start start' braces : Nat) : Alike (.template start braces) (.template start' braces)
  | quoted (start start' : Nat) {quote : Char} (quotes : isQuote quote = true) :
      Alike (.quoted start quote) (.quoted start' quote)

variable {o o' : Open} {offset offset' : Nat} {c d : Char}

theorem Alike.escapes (alike : o.Alike o') : o'.escapes = o.escapes := by
  cases alike <;> rfl

theorem Alike.enters (alike : o.Alike o') (c d : Char) :
    Option.Rel Alike (o.entersSubstitution c d) (o'.entersSubstitution c d) := by
  cases alike with
  | quoted => exact .none
  | template start start' braces =>
    cases braces with
    | succ => exact .none
    | zero =>
      simp only [entersSubstitution]
      split
      · exact .some (.template _ _ _)
      · exact .none

theorem Alike.enters_none (alike : o.Alike o') (none : o.entersSubstitution c d = none) :
    o'.entersSubstitution c d = Option.none := by
  have both := alike.enters c d
  rw [none] at both
  cases entered : o'.entersSubstitution c d with
  | none => rfl
  | some =>
    rw [entered] at both
    cases both

theorem Alike.enters_some {entered : Open} (alike : o.Alike o')
    (enters : o.entersSubstitution c d = some entered) :
    ∃ entered', o'.entersSubstitution c d = some entered' ∧ entered.Alike entered' := by
  have both := alike.enters c d
  rw [enters] at both
  cases entered' : o'.entersSubstitution c d with
  | none =>
    rw [entered'] at both
    cases both
  | some =>
    rw [entered'] at both
    cases both with | some alike => exact ⟨_, rfl, alike⟩

theorem Alike.after (alike : o.Alike o') (offset offset' : Nat) (c : Char) :
    List.Forall₂ Alike (o.after offset c).1 (o'.after offset' c).1 ∧
      ((o.after offset c).2 = [] → (o'.after offset' c).2 = []) := by
  cases alike with
  | quoted start start' quotes =>
    simp only [Open.after]
    split
    · exact ⟨.nil, fun none => by cases none⟩
    split
    · exact ⟨.nil, fun _ => rfl⟩
    · exact ⟨.cons (.quoted _ _ quotes) .nil, fun _ => rfl⟩
  | template start start' braces =>
    cases braces with
    | zero =>
      simp only [Open.after]
      split
      · exact ⟨.nil, fun _ => rfl⟩
      · exact ⟨.cons (.template _ _ _) .nil, fun _ => rfl⟩
    | succ braces =>
      simp only [Open.after]
      split
      · exact ⟨.cons (.template _ _ _) .nil, fun _ => rfl⟩
      split
      · exact ⟨.cons (.template _ _ _) .nil, fun _ => rfl⟩
      split
      · rename_i quotes
        exact ⟨.cons (.quoted _ _ quotes) (.cons (.template _ _ _) .nil), fun _ => rfl⟩
      split
      · exact ⟨.cons (.template _ _ _) (.cons (.template _ _ _) .nil), fun _ => rfl⟩
      · exact ⟨.cons (.template _ _ _) .nil, fun _ => rfl⟩

theorem ne_backslash_of_isQuote {c : Char} (quotes : isQuote c = true) : c ≠ '\\' := by
  rintro rfl
  cases quotes

/-- A character that closes what is open is neither an escape nor the start of a substitution. -/
theorem Alike.closes (alike : o.Alike o') (closed : (o.after offset c).1 = [])
    (clean : (o.after offset c).2 = []) :
    c ≠ '\\' ∧ ∀ d, o'.entersSubstitution c d = none := by
  cases alike with
  | quoted start start' quotes =>
    simp only [Open.after] at closed clean
    split at closed
    · simp_all
    split at closed
    · rename_i same
      exact ⟨same ▸ ne_backslash_of_isQuote quotes, fun _ => rfl⟩
    · cases closed
  | template start start' braces =>
    cases braces with
    | succ braces =>
      simp only [Open.after] at closed
      repeat' split at closed
      all_goals cases closed
    | zero =>
      simp only [Open.after] at closed
      split at closed
      · rename_i same
        subst same
        refine ⟨by decide, fun d => ?_⟩
        rw [entersSubstitution, if_neg fun both => absurd both.1 (by decide)]
      · cases closed

end Open

/-- Where the next character is read on its own. -/
theorem scanTemplate_step (offset : Nat) {o : Open} (opens : List Open) {c : Char} {cs : Text}
    (plain : ¬ (c = '\\' ∧ o.escapes = true)) (enters : ∀ d, cs.head? = some d →
      o.entersSubstitution c d = none) :
    (scanTemplate offset (o :: opens) (c :: cs)).1.taken =
        c :: (scanTemplate (offset + c.utf8Size) ((o.after offset c).1 ++ opens) cs).1.taken ∧
      (scanTemplate offset (o :: opens) (c :: cs)).2 =
        (o.after offset c).2 ++
          (scanTemplate (offset + c.utf8Size) ((o.after offset c).1 ++ opens) cs).2 := by
  cases cs with
  | nil => exact ⟨by rw [scanTemplate.eq_3]; rfl, by rw [scanTemplate.eq_3]⟩
  | cons d cs =>
    rw [scanTemplate.eq_4, if_neg plain, enters d rfl]
    exact ⟨rfl, rfl⟩

theorem opens_eq_nil {offset : Nat} {opens : List Open} {cs : Text}
    (taken : (scanTemplate offset opens cs).1.taken = [])
    (clean : (scanTemplate offset opens cs).2 = []) : opens = [] := by
  fun_induction scanTemplate offset opens cs with
  | case1 => rfl
  | case2 => exact List.map_eq_nil_iff.1 clean
  | case3 | case4 | case5 | case6 => cases taken

/-- A character that nothing is read behind closes all that is open. -/
theorem Open.Alike.closes_all {o o' : Open} {offset further : Nat} {opens : List Open} {c : Char}
    {cs : Text} (alike : o.Alike o') (cleanHere : (o.after offset c).2 = [])
    (taken : (scanTemplate further ((o.after offset c).1 ++ opens) cs).1.taken = [])
    (clean : (scanTemplate further ((o.after offset c).1 ++ opens) cs).2 = []) :
    c ≠ '\\' ∧ ∀ d, o'.entersSubstitution c d = none :=
  alike.closes (List.append_eq_nil_iff.1 (opens_eq_nil taken clean)).1 cleanHere

/-- Where the next character is read on its own of one text, it is of another. -/
theorem Open.Alike.step {o o' : Open} {offset offset' : Nat} {opens : List Open} {c : Char}
    {cs : Text} (alike : o.Alike o') (clean : (o.after offset c).2 = [])
    (plain : ¬ (c = '\\' ∧ o'.escapes = true))
    (enters : ∀ d, cs.head? = some d → o'.entersSubstitution c d = none)
    (behind : (scanTemplate (offset' + c.utf8Size) ((o'.after offset' c).1 ++ opens) cs).1.taken = t ∧
      (scanTemplate (offset' + c.utf8Size) ((o'.after offset' c).1 ++ opens) cs).2 = []) :
    (scanTemplate offset' (o' :: opens) (c :: cs)).1.taken = c :: t ∧
      (scanTemplate offset' (o' :: opens) (c :: cs)).2 = [] := by
  obtain ⟨taken, errors⟩ := scanTemplate_step offset' opens plain enters
  rw [taken, errors, (alike.after offset offset' c).2 clean, behind.1, behind.2]
  exact ⟨rfl, rfl⟩

/-- A template literal that is closed ends where it does before any text, wherever it starts. -/
theorem scanTemplate_closed (after : Text) {offset : Nat} (offset' : Nat)
    {opens opens' : List Open} (alike : List.Forall₂ Open.Alike opens opens') {cs : Text}
    (whole : t ++ behind = cs) (taken : (scanTemplate offset opens cs).1.taken = t)
    (clean : (scanTemplate offset opens cs).2 = []) :
    (scanTemplate offset' opens' (t ++ after)).1.taken = t ∧
      (scanTemplate offset' opens' (t ++ after)).2 = [] := by
  fun_induction scanTemplate offset opens cs generalizing t opens' offset' with
  | case1 =>
    cases alike
    obtain rfl : [] = t := taken
    rw [List.nil_append, scanTemplate.eq_1]
    exact ⟨rfl, rfl⟩
  | case2 offset opens some => exact absurd (List.map_eq_nil_iff.1 clean) some
  | case3 offset o opens c inner errors eq cut more eqMore =>
    rename_i ih
    obtain ⟨cleanHere, cleanMore⟩ := List.append_eq_nil_iff.1 clean
    cases alike with | @cons _ o' _ opens' alike outer =>
    obtain rfl : c :: cut.taken = t := taken
    have rest : cut.taken ++ behind = [] := (List.cons.inj whole).2
    have none := (List.append_eq_nil_iff.1 rest).1
    have goOn := alike.after offset offset' c
    rw [eq] at goOn
    rw [eqMore] at ih
    have later := ih (offset' + c.utf8Size) (List.rel_append goOn.1 outer) rest rfl cleanMore
    have cleanHere : (o.after offset c).2 = [] := by rw [eq]; exact cleanHere
    have closes := alike.closes_all cleanHere (by rw [eq, eqMore]; exact none)
      (by rw [eq, eqMore]; exact cleanMore)
    exact alike.step cleanHere (fun escape => closes.1 escape.1) (fun d _ => closes.2 d) later
  | case4 offset o opens c d cs escape cut more eqMore =>
    rename_i ih
    cases alike with | @cons _ o' _ opens' alike outer =>
    obtain rfl : c :: d :: cut.taken = t := taken
    rw [eqMore] at ih
    have rest : cut.taken ++ behind = cs := (List.cons.inj (List.cons.inj whole).2).2
    have later := ih (offset' + c.utf8Size + d.utf8Size) (.cons alike outer) rest rfl clean
    rw [List.cons_append, List.cons_append, scanTemplate.eq_4,
      if_pos ⟨escape.1, alike.escapes.trans escape.2⟩]
    exact ⟨congrArg (c :: d :: ·) later.1, later.2⟩
  | case5 offset o opens c d cs plain entered enters cut more eqMore =>
    rename_i ih
    cases alike with | @cons _ o' _ opens' alike outer =>
    obtain rfl : c :: d :: cut.taken = t := taken
    rw [eqMore] at ih
    have rest : cut.taken ++ behind = cs := (List.cons.inj (List.cons.inj whole).2).2
    obtain ⟨entered', inside, alikeEntered⟩ := alike.enters_some enters
    have later := ih (offset' + c.utf8Size + d.utf8Size) (.cons alikeEntered outer) rest rfl clean
    rw [List.cons_append, List.cons_append, scanTemplate.eq_4, alike.escapes, if_neg plain, inside]
    exact ⟨congrArg (c :: d :: ·) later.1, later.2⟩
  | case6 offset o opens c d cs plain enters inner errors eq cut more eqMore =>
    rename_i ih
    obtain ⟨cleanHere, cleanMore⟩ := List.append_eq_nil_iff.1 clean
    cases alike with | @cons _ o' _ opens' alike outer =>
    obtain rfl : c :: cut.taken = t := taken
    have rest : cut.taken ++ behind = d :: cs := (List.cons.inj whole).2
    have goOn := alike.after offset offset' c
    rw [eq] at goOn
    rw [eqMore] at ih
    have later := ih (offset' + c.utf8Size) (List.rel_append goOn.1 outer) rest rfl cleanMore
    have cleanHere : (o.after offset c).2 = [] := by rw [eq]; exact cleanHere
    refine alike.step cleanHere (by rwa [alike.escapes]) ?_ later
    intro e head
    cases inside : cut.taken with
    | nil =>
      exact (alike.closes_all cleanHere (by rw [eq, eqMore]; exact inside)
        (by rw [eq, eqMore]; exact cleanMore)).2 e
    | cons e' es =>
      rw [inside] at rest head
      obtain rfl : e' = d := (List.cons.inj rest).1
      obtain rfl : e' = e := by simpa using head
      exact alike.enters_none enters

end Lexeme

end ScriptLint
