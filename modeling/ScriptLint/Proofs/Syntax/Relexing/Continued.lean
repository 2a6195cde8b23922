import ScriptLint.Proofs.Syntax.Relexing.Closed
import ScriptLint.Proofs.Text.Returns

/-!
# Strings that continue a line

A backslash takes the next character with it. Where that is a line feed, and a carriage return is put
before it, the backslash takes the carriage return instead. In a template the line feed is then read
on its own, but in a string it ends the string unclosed. So with returns put before its feeds, a
string or a template literal fails if a string in it continues a line in this way (`continued`), and
else reads as it did (`settles_withReturns`). A string is read like a substitution with nothing but the
string in it (`settles_scanString`). A comment has no escapes (`scanComment_withReturns`).
-/

namespace ScriptLint.Lexeme

open Text

variable {cs t after : Text} {fails : Bool} {offset : Nat} {o : Open} {opens : List Open} {c d : Char}

/-- Whether the text is taken to its end without an error, or, where it is to fail, fails. -/
structure Settles (t : Text) (fails : Bool) (s : Cut cs × List SyntaxError) : Prop where
  reads : fails = false → s.1.taken = t ∧ s.2 = []
  fails : fails = true → s.2 ≠ []

theorem settles_true {s : Cut cs × List SyntaxError} (errors : s.2 ≠ []) : Settles t true s :=
  ⟨fun clean => Bool.noConfusion clean, fun _ => errors⟩

theorem Settles.step (plain : ¬ (c = '\\' ∧ o.escapes = true))
    (enters : ∀ d, cs.head? = some d → o.entersSubstitution c d = none)
    (clean : (o.after offset c).2 = [])
    (later : Settles t fails
      (scanTemplate (offset + c.utf8Size) ((o.after offset c).1 ++ opens) cs)) :
    Settles (c :: t) fails (scanTemplate offset (o :: opens) (c :: cs)) := by
  obtain ⟨taken, errors⟩ := scanTemplate_step offset opens plain enters
  rw [clean, List.nil_append] at errors
  constructor
  · intro none
    obtain ⟨takenLater, cleanLater⟩ := later.reads none
    exact ⟨by rw [taken, takenLater], by rw [errors, cleanLater]⟩
  · intro broken
    rw [errors]
    exact later.fails broken

theorem Settles.escape (escapes : o.escapes = true)
    (later : Settles t fails (scanTemplate (offset + '\\'.utf8Size + d.utf8Size) (o :: opens) cs)) :
    Settles ('\\' :: d :: t) fails (scanTemplate offset (o :: opens) ('\\' :: d :: cs)) := by
  rw [scanTemplate.eq_4, if_pos ⟨rfl, escapes⟩]
  exact ⟨fun none => ⟨congrArg ('\\' :: d :: ·) (later.reads none).1, (later.reads none).2⟩,
    later.fails⟩

theorem Settles.enter {entered : Open} (plain : ¬ (c = '\\' ∧ o.escapes = true))
    (enters : o.entersSubstitution c d = some entered)
    (later : Settles t fails
      (scanTemplate (offset + c.utf8Size + d.utf8Size) (entered :: opens) cs)) :
    Settles (c :: d :: t) fails (scanTemplate offset (o :: opens) (c :: d :: cs)) := by
  rw [scanTemplate.eq_4, if_neg plain, enters]
  exact ⟨fun none => ⟨congrArg (c :: d :: ·) (later.reads none).1, (later.reads none).2⟩,
    later.fails⟩

namespace Open

/-- Whether a string is open. -/
def isQuoted : Open → Bool
  | .quoted _ _ => true
  | .template _ _ => false

theorem entersSubstitution_of_ne (other : ¬ (c = '$' ∧ d = '{')) :
    o.entersSubstitution c d = none := by
  cases o with
  | quoted => rfl
  | template start braces =>
    cases braces with
    | zero => exact if_neg other
    | succ => rfl

theorem eq_of_entersSubstitution {entered : Open}
    (enters : o.entersSubstitution c d = some entered) : c = '$' ∧ d = '{' := by
  by_contra other
  rw [entersSubstitution_of_ne other] at enters
  cases enters

theorem errors_after_break {start : Nat} {quote : Char} (ends : isLineBreak c = true) :
    ((Open.quoted start quote).after offset c).2 ≠ [] := by
  simp [Open.after, ends]

/-- A line break leaves a template open as it is. -/
theorem after_break (template : o.isQuoted = false) (ends : isLineBreak c = true) :
    o.after offset c = ([o], []) := by
  cases o with
  | quoted => cases template
  | template start braces =>
    rcases (by simpa [isLineBreak] using ends : c = '\n' ∨ c = '\r') with rfl | rfl <;>
      cases braces <;> rfl

/-- A line break that is no error is one of a template. -/
theorem template_of_break (clean : (o.after offset c).2 = []) (ends : isLineBreak c = true) :
    o.isQuoted = false := by
  cases o with
  | template => rfl
  | quoted => exact absurd clean (errors_after_break ends)

end Open

/-- A line break in a template is read on its own. -/
theorem Settles.lineBreak (template : o.isQuoted = false) (ends : isLineBreak c = true)
    (later : Settles t fails (scanTemplate (offset + c.utf8Size) (o :: opens) cs)) :
    Settles (c :: t) fails (scanTemplate offset (o :: opens) (c :: cs)) := by
  have plain : c ≠ '\\' ∧ c ≠ '$' := by
    constructor <;> rintro rfl <;> cases ends
  have stays : o.after offset c = ([o], []) := Open.after_break template ends
  refine .step (fun escape => plain.1 escape.1)
    (fun d _ => Open.entersSubstitution_of_ne fun enters => plain.2 enters.1) (by rw [stays]) ?_
  rw [stays]
  exact later

/-- A line break in a string is an error. -/
theorem errors_lineBreak {start : Nat} {quote : Char} (ends : isLineBreak c = true) :
    (scanTemplate offset (.quoted start quote :: opens) (c :: cs)).2 ≠ [] := by
  have plain : c ≠ '\\' := by
    rintro rfl
    cases ends
  rw [(scanTemplate_step offset opens (fun escape => plain escape.1) fun _ _ => rfl).2]
  exact fun none => Open.errors_after_break ends (List.append_eq_nil_iff.1 none).1

/-- A string is read as it is read inside of a substitution. -/
theorem settles_scanString {quote : Char} (plain : quote ≠ '\\') (offset start : Nat) (cs : Text) :
    Settles (scanString quote cs).1.taken (! (scanString quote cs).2)
      (scanTemplate offset [.quoted start quote] cs) := by
  fun_induction scanString quote cs generalizing offset with
  | case1 =>
    refine settles_true ?_
    rw [scanTemplate.eq_2 offset _ (List.cons_ne_nil _ _)]
    exact List.cons_ne_nil _ _
  | case2 c cs tail ih => exact .escape rfl (ih _)
  | case3 c cs other ends => exact settles_true (errors_lineBreak ends)
  | case4 cs other ends =>
    have closes : (Open.quoted start quote).after offset quote = ([], []) := by
      simp [Open.after, ends]
    refine .step (fun escape => plain escape.1) (fun _ _ => rfl) (by rw [closes]) ?_
    rw [closes, List.nil_append, scanTemplate.eq_1]
    exact ⟨fun _ => ⟨rfl, rfl⟩, fun broken => Bool.noConfusion broken⟩
  | case5 c cs other ends differs tail ih =>
    have stays : (Open.quoted start quote).after offset c = ([.quoted start quote], []) := by
      simp [Open.after, ends, differs]
    cases cs with
    | nil =>
      refine settles_true ?_
      rw [scanTemplate.eq_3, stays]
      exact List.cons_ne_nil _ _
    | cons d cs =>
      refine .step (fun escape => other d cs escape.1 rfl) (fun _ _ => rfl) (by rw [stays]) ?_
      rw [stays]
      exact ih _

/-- Whether a backslash in a string takes a line feed with it while what is open is read. -/
def continued (offset : Nat) : List Open → Text → Bool
  | [], _ => false
  | _ :: _, [] => false
  | _ :: _, [_] => false
  | o :: opens, c :: d :: cs =>
    if c = '\\' ∧ o.escapes then
      (o.isQuoted && d == '\n') || continued (offset + c.utf8Size + d.utf8Size) (o :: opens) cs
    else
      match o.entersSubstitution c d with
      | some entered => continued (offset + c.utf8Size + d.utf8Size) (entered :: opens) cs
      | none => continued (offset + c.utf8Size) ((o.after offset c).1 ++ opens) (d :: cs)

theorem continued_nil (offset : Nat) (opens : List Open) : continued offset opens [] = false := by
  cases opens <;> rfl

/-- What is read to its end without an error is read so with returns put before its feeds, unless a
string continues a line in it. -/
theorem settles_withReturns (after : Text) {offset : Nat} (offset' : Nat) {opens opens' : List Open}
    {cs : Text} (alike : List.Forall₂ Open.Alike opens opens') (lone : '\r' ∉ cs)
    (taken : (scanTemplate offset opens cs).1.taken = cs)
    (clean : (scanTemplate offset opens cs).2 = []) :
    Settles (withReturns cs) (continued offset opens cs)
      (scanTemplate offset' opens' (withReturns cs ++ after)) := by
  fun_induction scanTemplate offset opens cs generalizing opens' offset' with
  | case1 offset cs =>
    cases alike
    obtain rfl : [] = cs := taken
    rw [withReturns_nil, List.nil_append, scanTemplate.eq_1]
    exact ⟨fun _ => ⟨rfl, rfl⟩, fun broken => Bool.noConfusion broken⟩
  | case2 offset opens some => exact absurd (List.map_eq_nil_iff.1 clean) some
  | case3 offset o opens c inner errors eq cut more eqMore ih =>
    obtain ⟨cleanInner, cleanMore⟩ := List.append_eq_nil_iff.1 clean
    cases alike with | @cons _ o' _ opens' alike outer =>
    have none : cut.taken = [] := (List.cons.inj taken).2
    have cleanHere : (o.after offset c).2 = [] := by rw [eq]; exact cleanInner
    have ended : (o.after offset c).1 = [] := by
      rw [eq]
      exact (List.append_eq_nil_iff.1 (opens_eq_nil (by rw [eqMore]; exact none)
        (by rw [eqMore]; exact cleanMore))).1
    have feed : c ≠ '\n' := by
      rintro rfl
      rw [Open.after_break (Open.template_of_break cleanHere rfl) rfl] at ended
      cases ended
    have goOn := alike.after offset offset' c
    rw [eq] at goOn
    rw [eqMore] at ih
    have later := ih (offset' + c.utf8Size) (List.rel_append goOn.1 outer) List.not_mem_nil none
      cleanMore
    rw [continued_nil] at later
    have closes := alike.closes ended cleanHere
    rw [withReturns_cons feed]
    exact .step (fun escape => closes.1 escape.1) (fun d _ => closes.2 d) (goOn.2 cleanInner) later
  | case4 offset o opens c d cs escape cut more eqMore ih =>
    obtain ⟨rfl, escapes⟩ := escape
    obtain ⟨lone, later⟩ : '\r' ≠ d ∧ '\r' ∉ cs := by simpa using lone
    cases alike with | @cons _ o' _ opens' alike outer =>
    have escapes' : o'.escapes = true := alike.escapes.trans escapes
    have takenLater : cut.taken = cs := (List.cons.inj (List.cons.inj taken).2).2
    rw [eqMore] at ih
    rw [withReturns_cons (by decide), continued, if_pos ⟨rfl, escapes⟩]
    by_cases feed : d = '\n'
    · subst feed
      cases alike with
      | quoted start start' quotes =>
        exact .escape rfl (settles_true (errors_lineBreak rfl))
      | template start start' braces =>
        refine .escape escapes' (.lineBreak rfl rfl ?_)
        exact ih _ (.cons (.template _ _ _) outer) later takenLater clean
    · rw [withReturns_cons feed, beq_false_of_ne feed, Bool.and_false, Bool.false_or]
      exact .escape escapes' (ih _ (.cons alike outer) later takenLater clean)
  | case5 offset o opens c d cs plain entered enters cut more eqMore ih =>
    obtain ⟨rfl, rfl⟩ := Open.eq_of_entersSubstitution enters
    cases alike with | @cons _ o' _ opens' alike outer =>
    have takenLater : cut.taken = cs := (List.cons.inj (List.cons.inj taken).2).2
    rw [eqMore] at ih
    obtain ⟨entered', inside, alikeEntered⟩ := alike.enters_some enters
    rw [withReturns_cons (by decide), withReturns_cons (by decide), continued, if_neg plain, enters]
    refine .enter (by rwa [alike.escapes]) inside ?_
    exact ih _ (.cons alikeEntered outer) (by simpa using lone) takenLater clean
  | case6 offset o opens c d cs plain enters inner errors eq cut more eqMore ih =>
    obtain ⟨cleanInner, cleanMore⟩ := List.append_eq_nil_iff.1 clean
    cases alike with | @cons _ o' _ opens' alike outer =>
    have takenLater : cut.taken = d :: cs := (List.cons.inj taken).2
    have later : '\r' ∉ d :: cs := fun mem => lone (List.mem_cons_of_mem c mem)
    have cleanHere : (o.after offset c).2 = [] := by rw [eq]; exact cleanInner
    rw [eqMore] at ih
    rw [continued, if_neg plain, enters, eq]
    by_cases feed : c = '\n'
    · subst feed
      have template := Open.template_of_break cleanHere rfl
      rw [Open.after_break template rfl] at eq
      cases eq
      cases alike with
      | quoted => cases template
      | template start start' braces =>
        rw [withReturns_feed]
        refine .lineBreak rfl rfl (.lineBreak rfl rfl ?_)
        exact ih _ (.cons (.template _ _ _) outer) later takenLater cleanMore
    · have goOn := alike.after offset offset' c
      rw [eq] at goOn
      rw [withReturns_cons feed]
      refine .step (by rwa [alike.escapes]) ?_ (goOn.2 cleanInner)
        (ih _ (List.rel_append goOn.1 outer) later takenLater cleanMore)
      intro e head
      by_cases next : d = '\n'
      · subst next
        obtain rfl : '\r' = e := by simpa using head
        exact Open.entersSubstitution_of_ne fun both => absurd both.2 (by decide)
      · rw [withReturns_cons next] at head
        obtain rfl : d = e := by simpa using head
        exact alike.enters_none enters

/-- A string is closed with returns put before its feeds unless it continues a line. -/
theorem scanString_withReturns (after : Text) {quote : Char} (quotes : isQuote quote = true)
    {cs : Text} (lone : '\r' ∉ cs) (taken : (scanString quote cs).1.taken = cs)
    (closed : (scanString quote cs).2 = true) (offset start : Nat) :
    (scanString quote (withReturns cs ++ after)).2 =
        ! continued offset [.quoted start quote] cs ∧
      (continued offset [.quoted start quote] cs = false →
        (scanString quote (withReturns cs ++ after)).1.taken = withReturns cs) := by
  have plain := Open.ne_backslash_of_isQuote quotes
  have whole := (settles_scanString plain offset start cs).reads (by rw [closed]; rfl)
  have settles := settles_withReturns after offset (.cons (.quoted start start quotes) .nil) lone
    (whole.1.trans taken) whole.2
  have same := settles_scanString plain offset start (withReturns cs ++ after)
  cases broken : continued offset [.quoted start quote] cs with
  | true =>
    refine ⟨?_, fun none => Bool.noConfusion none⟩
    by_contra closed
    have none : (! (scanString quote (withReturns cs ++ after)).2) = false := by simpa using closed
    exact settles.fails broken (same.reads none).2
  | false =>
    have reads := settles.reads broken
    cases closed : (scanString quote (withReturns cs ++ after)).2 with
    | false => exact absurd reads.2 (same.fails (by rw [closed]; rfl))
    | true => exact ⟨rfl, fun _ => (same.reads (by rw [closed]; rfl)).1.symm.trans reads.1⟩

/-- A block comment is closed with returns put before its feeds. -/
theorem scanComment_withReturns (after : Text) {cs : Text} (taken : (scanComment cs).1.taken = cs)
    (closed : (scanComment cs).2 = true) :
    (scanComment (withReturns cs ++ after)).1.taken = withReturns cs ∧
      (scanComment (withReturns cs ++ after)).2 = true := by
  fun_induction scanComment cs with
  | case1 => cases closed
  | case2 cs =>
    obtain rfl : [] = cs := (List.cons.inj (List.cons.inj taken).2).2
    exact ⟨rfl, rfl⟩
  | case3 c cs other tail ih =>
    have ih := ih (List.cons.inj taken).2 closed
    by_cases feed : c = '\n'
    · subst feed
      have apart {c : Char} (plain : c ≠ '*') : ∀ (cs es : Text), c = '*' → cs = '/' :: es → False :=
        fun _ _ star _ => plain star
      rw [withReturns_feed, List.cons_append, List.cons_append,
        scanComment.eq_3 '\r' _ (apart (by decide) _), scanComment.eq_3 '\n' _ (apart (by decide) _)]
      exact ⟨congrArg ('\r' :: '\n' :: ·) ih.1, ih.2⟩
    · have some : cs ≠ [] := by
        rw [← (List.cons.inj taken).2]
        exact taken_scanComment_ne_nil closed
      obtain ⟨d, ds, rfl⟩ := List.exists_cons_of_ne_nil some
      have apart : ∀ es, c = '*' → withReturns (d :: ds) ++ after = '/' :: es → False := by
        intro es star slash
        by_cases next : d = '\n'
        · subst next
          cases slash
        · rw [withReturns_cons next] at slash
          exact other ds star (congrArg (· :: ds) (List.cons.inj slash).1)
      rw [withReturns_cons feed, List.cons_append, scanComment.eq_3 c _ apart]
      exact ⟨congrArg (c :: ·) ih.1, ih.2⟩

end ScriptLint.Lexeme
