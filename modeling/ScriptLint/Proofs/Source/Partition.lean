import ScriptLint.Proofs.Source.Stream

/-!
# Tokens and their errors

The tokens of a text come one behind another from its start to its end, none of them empty, and each
is the stretch of the text between its offsets (`covers_ofText`, `slice?_of_mem`). Each token is read
on its own, with errors of its own (`Token.Read`, `exists_readings`). These lie inside of it and are
not empty (`Token.Read.bounds`), and a character that starts no token makes an error as wide as itself
(`Token.Read.covered`).
-/

namespace ScriptLint

open Text

namespace Lexeme

theorem Open.entersSubstitution_eq_some {o entered : Open} {c d : Char}
    (enters : o.entersSubstitution c d = some entered) :
    ∃ start, o = .template start 0 ∧ c = '$' ∧ d = '{' ∧ entered = .template start 1 := by
  unfold entersSubstitution at enters
  split at enters
  · rename_i start
    split at enters
    · rename_i both
      exact ⟨start, rfl, both.1, both.2, (Option.some.inj enters).symm⟩
    · cases enters
  · cases enters

theorem isLineBreak_of_isQuote {c : Char} (quotes : isQuote c = true) : isLineBreak c = false := by
  rcases (by simpa [isQuote] using quotes : c = '"' ∨ c = '\'') with rfl | rfl <;> rfl

theorem Open.after_quote {offset start braces : Nat} {c : Char} (quotes : isQuote c = true) :
    (Open.template start (braces + 1)).after offset c =
      ([.quoted offset c, .template start (braces + 1)], []) := by
  rcases (by simpa [isQuote] using quotes : c = '"' ∨ c = '\'') with rfl | rfl <;> rfl

/-- How a template literal is read from its front: a character at a time, unless a backslash takes the
next one with it or the two enter a substitution. -/
inductive Steps : (offset : Nat) → List Open → (cs taken rest : Text) → List SyntaxError → Prop where
  | closed (offset : Nat) (cs : Text) : Steps offset [] cs [] cs []
  | ended (offset : Nat) (o : Open) (opens : List Open) :
      Steps offset (o :: opens) [] [] [] ((o :: opens).map (Open.unclosed offset))
  | escape {offset : Nat} {o : Open} {opens : List Open} {c : Char} {cs taken rest : Text}
      {errors : List SyntaxError} (escapes : o.escapes = true)
      (later : Steps (offset + '\\'.utf8Size + c.utf8Size) (o :: opens) cs taken rest errors) :
      Steps offset (o :: opens) ('\\' :: c :: cs) ('\\' :: c :: taken) rest errors
  | enter {offset : Nat} {o entered : Open} {opens : List Open} {c d : Char} {cs taken rest : Text}
      {errors : List SyntaxError} (plain : ¬ (c = '\\' ∧ o.escapes = true))
      (enters : o.entersSubstitution c d = some entered)
      (later : Steps (offset + c.utf8Size + d.utf8Size) (entered :: opens) cs taken rest errors) :
      Steps offset (o :: opens) (c :: d :: cs) (c :: d :: taken) rest errors
  | char {offset : Nat} {o : Open} {opens : List Open} {c : Char} {cs taken rest : Text}
      {errors : List SyntaxError} (plain : cs ≠ [] → ¬ (c = '\\' ∧ o.escapes = true))
      (alone : ∀ d, cs.head? = some d → o.entersSubstitution c d = none)
      (later : Steps (offset + c.utf8Size) ((o.after offset c).1 ++ opens) cs taken rest errors) :
      Steps offset (o :: opens) (c :: cs) (c :: taken) rest ((o.after offset c).2 ++ errors)

section
variable {offset : Nat} {opens inner : List Open} {cs taken rest taken' rest' : Text}
  {errors errors' : List SyntaxError}

theorem steps_scanTemplate (offset : Nat) (opens : List Open) (cs : Text) :
    Steps offset opens cs (scanTemplate offset opens cs).1.taken (scanTemplate offset opens cs).1.rest
      (scanTemplate offset opens cs).2 := by
  fun_induction scanTemplate offset opens cs with
  | case1 offset cs => exact .closed offset cs
  | case2 offset opens some =>
    obtain ⟨o, opens, rfl⟩ := List.exists_cons_of_ne_nil some
    exact .ended offset o opens
  | case3 offset o opens c inner errors eq cut more eqMore ih =>
    rw [eqMore, show inner = (o.after offset c).1 by rw [eq]] at ih
    rw [show errors = (o.after offset c).2 by rw [eq]]
    exact .char (fun some => absurd rfl some) (fun _ head => by cases head) ih
  | case4 offset o opens c d cs escape cut more eqMore ih =>
    rw [eqMore] at ih
    obtain ⟨rfl, escapes⟩ := escape
    exact .escape escapes ih
  | case5 offset o opens c d cs plain entered enters cut more eqMore ih =>
    rw [eqMore] at ih
    exact .enter plain enters ih
  | case6 offset o opens c d cs plain enters inner errors eq cut more eqMore ih =>
    rw [eqMore, show inner = (o.after offset c).1 by rw [eq]] at ih
    rw [show errors = (o.after offset c).2 by rw [eq]]
    exact .char (fun _ => plain) (fun e head => Option.some.inj head ▸ enters) ih

/-- There is one way only to read a text. -/
theorem Steps.unique (steps : Steps offset opens cs taken rest errors)
    (others : Steps offset opens cs taken' rest' errors') :
    taken = taken' ∧ rest = rest' ∧ errors = errors' := by
  induction steps generalizing taken' errors' with
  | closed => cases others; exact ⟨rfl, rfl, rfl⟩
  | ended => cases others; exact ⟨rfl, rfl, rfl⟩
  | escape escapes _ ih =>
    cases others with
    | escape _ later =>
      obtain ⟨rfl, same⟩ := ih later
      exact ⟨rfl, same⟩
    | enter plain => exact absurd ⟨rfl, escapes⟩ plain
    | char plain => exact absurd ⟨rfl, escapes⟩ (plain (List.cons_ne_nil _ _))
  | enter plain enters _ ih =>
    cases others with
    | escape escapes => exact absurd ⟨rfl, escapes⟩ plain
    | enter _ enters' later =>
      obtain rfl := Option.some.inj (enters.symm.trans enters')
      obtain ⟨rfl, same⟩ := ih later
      exact ⟨rfl, same⟩
    | char _ alone =>
      rw [alone _ rfl] at enters
      cases enters
  | char plain alone _ ih =>
    cases others with
    | escape escapes => exact absurd ⟨rfl, escapes⟩ (plain (List.cons_ne_nil _ _))
    | enter _ enters =>
      rw [alone _ rfl] at enters
      cases enters
    | char _ _ later =>
      obtain ⟨rfl, rfl, rfl⟩ := ih later
      exact ⟨rfl, rfl, rfl⟩

/-- What is open below waits until all that is open above it is closed. -/
theorem Steps.append (first : Steps offset inner cs taken rest errors)
    (second : Steps (offset + Text.size taken) opens rest taken' rest' errors') :
    Steps offset (inner ++ opens) cs (taken ++ taken') rest' (errors ++ errors') := by
  induction first with
  | closed => exact second
  | ended offset o inner =>
    cases second with
    | closed => simpa using Steps.ended offset o inner
    | ended _ p opens => simpa using Steps.ended offset o (inner ++ p :: opens)
  | escape escapes _ ih =>
    refine .escape escapes (ih ?_)
    rwa [size_cons, size_cons, ← Nat.add_assoc, ← Nat.add_assoc] at second
  | enter plain enters _ ih =>
    refine .enter plain enters (ih ?_)
    rwa [size_cons, size_cons, ← Nat.add_assoc, ← Nat.add_assoc] at second
  | char plain alone _ ih =>
    rw [size_cons, ← Nat.add_assoc] at second
    have later := ih second
    rw [List.append_assoc] at later ⊢
    exact .char plain alone later

/-- Where the text is over, nothing is open or there is an error. -/
theorem Steps.opens_eq_nil (steps : Steps offset opens [] taken rest []) : opens = [] := by
  cases steps
  rfl

/-- What is taken starts with the character that comes first. -/
theorem Steps.head?_of_taken (steps : Steps offset opens cs taken rest errors) {c : Char}
    (head : taken.head? = some c) : cs.head? = some c := by
  cases steps with
  | closed | ended => cases head
  | escape | enter | char => exact head

/-- The errors of a template literal start where something open starts and end by the end of what is
taken. -/
theorem Steps.bounds (steps : Steps offset opens cs taken rest errors) (base : Nat)
    (below : ∀ o ∈ opens, base ≤ o.start ∧ o.start < offset) : ∀ e ∈ errors,
      base ≤ e.span.start ∧ e.span.start < e.span.stop ∧ e.span.stop ≤ offset + Text.size taken := by
  induction steps with
  | closed => simp
  | ended offset o opens =>
    intro e mem
    obtain ⟨p, among, rfl⟩ := List.mem_map.1 mem
    have := below p among
    rw [Open.span_unclosed]
    exact ⟨this.1, this.2, Nat.le_add_right _ _⟩
  | escape _ _ ih =>
    intro e mem
    have := ih (fun p among => by have := below p among; omega) e mem
    simp only [size_cons]
    omega
  | @enter offset o entered opens c d cs taken rest errors _ enters _ ih =>
    have later : ∀ p ∈ entered :: opens,
        base ≤ p.start ∧ p.start < offset + c.utf8Size + d.utf8Size := by
      intro p mem
      rcases List.mem_cons.1 mem with rfl | outer
      · have := below o List.mem_cons_self
        rw [Open.start_of_entersSubstitution enters]
        omega
      · have := below p (List.mem_cons_of_mem o outer)
        omega
    intro e mem
    have := ih later e mem
    simp only [size_cons]
    omega
  | @char offset o opens c cs taken rest errors _ _ _ ih =>
    have wide := c.utf8Size_pos
    have here := below o List.mem_cons_self
    have later : ∀ p ∈ (o.after offset c).1 ++ opens,
        base ≤ p.start ∧ p.start < offset + c.utf8Size := by
      intro p mem
      rcases List.mem_append.1 mem with inner | outer
      · rcases Open.start_of_mem_after inner with same | same <;> omega
      · have := below p (List.mem_cons_of_mem o outer)
        omega
    intro e mem
    rw [size_cons]
    rcases List.mem_append.1 mem with now | behind
    · rw [Open.span_of_mem_after now]
      exact ⟨here.1, here.2, Nat.le_add_right _ _⟩
    · have := ih later e behind
      omega

end

theorem bounds_unfinished {problem : SyntaxProblem} {start : Nat} {first : Char} {taken : Text}
    {closed : Bool} : ∀ e ∈ unfinished problem start first taken closed,
      e.span = ⟨start, start + first.utf8Size + Text.size taken⟩ := by
  intro e mem
  cases closed with
  | true => simp [unfinished] at mem
  | false => rw [List.mem_singleton.1 mem]

/-- The errors of a lexeme lie inside of it. -/
theorem bounds_scan (start : Nat) (first : Char) (cs : Text) :
    ∀ e ∈ (scan start first cs).errors, start ≤ e.span.start ∧ e.span.start < e.span.stop ∧
      e.span.stop ≤ start + first.utf8Size + Text.size (scan start first cs).cut.taken := by
  have wide := first.utf8Size_pos
  have covered {problem : SyntaxProblem} (closed : Bool) (taken : Text) :
      ∀ e ∈ unfinished problem start first taken closed,
        start ≤ e.span.start ∧ e.span.start < e.span.stop ∧
          e.span.stop ≤ start + first.utf8Size + Text.size taken := by
    intro e mem
    rw [bounds_unfinished e mem]
    exact ⟨Nat.le_refl _, by dsimp only; omega, Nat.le_refl _⟩
  have template := (steps_scanTemplate (start + first.utf8Size) [.template start 0] cs).bounds
    start (by simp [Open.start, wide])
  unfold scan
  split
  · simp
  split
  · simp
  split
  · exact covered _ _
  split
  · simp
  split
  · exact covered _ _
  split
  · exact template
  split
  · simp [scanWord]
  · simp only [scanPunctuation]
    split
    · simp
    · exact covered false []

/-- The kinds of words. -/
theorem kind_scanWord_mem (first : Char) (cs : Text) :
    (scanWord first cs).kind ∈ SyntaxKind.ident :: SyntaxKind.reserved.map Prod.snd := by
  simp only [scanWord]
  cases found : SyntaxKind.ofReserved? (String.ofList (first :: (Cut.run isWordPart cs).taken)) with
  | none => exact List.mem_cons_self
  | some kind =>
    obtain ⟨before, after, among, _⟩ := List.lookup_eq_some_iff.1 found
    have mem : (String.ofList (first :: (Cut.run isWordPart cs).taken), kind) ∈
        SyntaxKind.reserved := among ▸ List.mem_append_right before List.mem_cons_self
    exact List.mem_cons_of_mem _ (List.mem_map.2 ⟨_, mem, rfl⟩)

theorem kind_scanWord_ne {kind : SyntaxKind}
    (other : kind ∉ SyntaxKind.ident :: SyntaxKind.reserved.map Prod.snd) (first : Char) (cs : Text) :
    (scanWord first cs).kind ≠ kind :=
  fun same => other (same ▸ kind_scanWord_mem first cs)

/-- A character that starts no lexeme makes an error of its own width. -/
theorem errors_of_kind_error {start : Nat} {first : Char} {cs : Text}
    (kind : (scan start first cs).kind = .error) :
    ∃ e ∈ (scan start first cs).errors,
      e.span = ⟨start, start + first.utf8Size + Text.size (scan start first cs).cut.taken⟩ := by
  have all : ∀ entry ∈ punctuation, entry.2 ≠ .error := by decide
  unfold scan at kind ⊢
  repeat' split at kind
  any_goals cases kind
  · exact absurd kind (kind_scanWord_ne (by decide) first cs)
  · rename_i blank line block number quotes tick word
    simp only [if_neg blank, if_neg line, if_neg block, if_neg number, if_neg quotes, if_neg tick,
      if_neg word]
    unfold scanPunctuation at kind ⊢
    split at kind
    · rename_i found
      exact absurd kind (all _ (List.mem_of_find?_eq_some found))
    · exact ⟨_, List.mem_singleton_self _, rfl⟩

end Lexeme

/-- Whether a token is what is read off some text at its offset, with these errors. -/
def Token.Read (t : Token) (errors : List SyntaxError) : Prop :=
  ∃ first cs, t.kind = (Lexeme.scan t.start first cs).kind ∧
    t.text = first :: (Lexeme.scan t.start first cs).cut.taken ∧
    errors = (Lexeme.scan t.start first cs).errors

/-- Whether an error lies inside of a token. -/
def Token.Holds (t : Token) (e : SyntaxError) : Prop :=
  t.start ≤ e.span.start ∧ e.span.stop ≤ t.stop

namespace Token.Read

variable {t : Token} {errors : List SyntaxError}

theorem bounds (read : t.Read errors) : ∀ e ∈ errors,
    t.start ≤ e.span.start ∧ e.span.start < e.span.stop ∧ e.span.stop ≤ t.stop := by
  obtain ⟨first, cs, -, text, rfl⟩ := read
  intro e mem
  have := Lexeme.bounds_scan t.start first cs e mem
  rw [Token.stop, text, size_cons]
  omega

theorem covered (read : t.Read errors) (kind : t.kind = .error) : ∃ e ∈ errors, e.span = t.span := by
  obtain ⟨first, cs, kind', text, rfl⟩ := read
  obtain ⟨e, mem, span⟩ := Lexeme.errors_of_kind_error (kind'.symm.trans kind)
  exact ⟨e, mem, by rw [span, Token.span, Token.stop, text, size_cons, Nat.add_assoc]⟩

end Token.Read

namespace TokenStream

open Lexeme (tokensFrom lexFrom join)

/-- Each token of a text is read with errors of its own, and these are all errors there are. -/
theorem exists_readings (offset : Nat) (text : Text) :
    ∃ readings : List (Token × List SyntaxError),
      tokensFrom offset (lexFrom offset text).1 = readings.map Prod.fst ∧
        (lexFrom offset text).2 = readings.flatMap Prod.snd ∧ ∀ r ∈ readings, r.1.Read r.2 := by
  fun_induction lexFrom offset text with
  | case1 => exact ⟨[], rfl, rfl, by simp⟩
  | case2 offset c cs s lexemes more eq ih =>
    rw [eq] at ih
    obtain ⟨readings, tokens, errors, read⟩ := ih
    refine ⟨(⟨s.kind, c :: s.cut.taken, offset⟩, s.errors) :: readings, ?_,
      congrArg (s.errors ++ ·) errors, List.forall_mem_cons.2 ⟨⟨c, cs, rfl, rfl, rfl⟩, read⟩⟩
    rw [List.map_cons, ← tokens, tokensFrom, size_cons, ← Nat.add_assoc]

theorem exists_read_of_mem {offset : Nat} {text : Text} {t : Token}
    (mem : t ∈ tokensFrom offset (lexFrom offset text).1) :
    ∃ errors, t.Read errors ∧ ∀ e ∈ errors, e ∈ (lexFrom offset text).2 := by
  obtain ⟨readings, tokens, errors, read⟩ := exists_readings offset text
  rw [tokens] at mem
  obtain ⟨r, among, rfl⟩ := List.mem_map.1 mem
  exact ⟨r.2, read r among, fun e mem => errors ▸ List.mem_flatMap.2 ⟨r, among, mem⟩⟩

/-- Every error lies inside of a token, and is not empty. -/
theorem exists_holds_of_mem {offset : Nat} {text : Text} {e : SyntaxError}
    (mem : e ∈ (lexFrom offset text).2) : e.span.start < e.span.stop ∧
      ∃ t ∈ tokensFrom offset (lexFrom offset text).1, t.Holds e := by
  obtain ⟨readings, tokens, errors, read⟩ := exists_readings offset text
  rw [errors] at mem
  obtain ⟨r, among, mem⟩ := List.mem_flatMap.1 mem
  have bounds := (read r among).bounds e mem
  exact ⟨bounds.2.1, r.1, tokens ▸ List.mem_map_of_mem among, bounds.1, bounds.2.2⟩

/-- Whether tokens reach from one offset to another, each of them from where the one before it ends,
and none of them empty. -/
def Covers : (start stop : Nat) → List Token → Prop
  | start, stop, [] => start = stop
  | start, stop, t :: ts => t.start = start ∧ start < t.stop ∧ Covers t.stop stop ts

theorem covers_tokensFrom {ls : List Lexeme} (filled : ∀ l ∈ ls, l.text ≠ []) (start : Nat) :
    Covers start (start + Text.size (join ls)) (tokensFrom start ls) := by
  induction ls generalizing start with
  | nil => rfl
  | cons l ls ih =>
    have := Text.size_pos (filled l List.mem_cons_self)
    have later := ih (fun l mem => filled l (List.mem_cons_of_mem _ mem)) (start + Text.size l.text)
    rw [Lexeme.join_cons, size_append, ← Nat.add_assoc]
    exact ⟨rfl, by simp only [Token.stop]; omega, later⟩

theorem covers_ofText (text : Text) : Covers 0 (Text.size text) (ofText text) := by
  have covers := covers_tokensFrom (Lexeme.text_ne_nil_of_mem_lexFrom 0 text) 0
  rwa [Lexeme.join_lexFrom, Nat.zero_add] at covers

theorem flatMap_text_tokensFrom (start : Nat) (ls : List Lexeme) :
    (tokensFrom start ls).flatMap Token.text = join ls := by
  induction ls generalizing start with
  | nil => rfl
  | cons l ls ih => rw [tokensFrom, List.flatMap_cons, ih, Lexeme.join_cons]

/-- A token is a part of the text that its lexemes make up, at its offset. -/
theorem parts_of_mem_tokensFrom {ls : List Lexeme} {start : Nat} {t : Token}
    (mem : t ∈ tokensFrom start ls) : ∃ before behind, join ls = before ++ t.text ++ behind ∧
      t.start = start + Text.size before := by
  induction ls generalizing start with
  | nil => cases mem
  | cons l ls ih =>
    rw [Lexeme.join_cons]
    rcases List.mem_cons.1 mem with rfl | later
    · exact ⟨[], join ls, rfl, rfl⟩
    · obtain ⟨before, behind, joined, at_⟩ := ih later
      refine ⟨l.text ++ before, behind, by rw [joined]; simp, ?_⟩
      rw [at_, size_append, Nat.add_assoc]

/-- A token is the stretch of the text between its offsets. -/
theorem slice?_of_mem {text : Text} {t : Token} (mem : t ∈ ofText text) :
    Text.slice? text t.start t.stop = some t.text := by
  obtain ⟨before, behind, joined, at_⟩ := parts_of_mem_tokensFrom mem
  rw [join_lex, Nat.zero_add] at *
  exact slice?_eq_some_iff.2 ⟨before, behind, joined, at_, rfl⟩

end TokenStream

end ScriptLint
