import ScriptLint.Syntax.Lexeme
import ScriptLint.Proofs.Text.Stretch

/-!
# Lexemes and their errors

No lexeme has the kind that stands for the end of a text (`kind_of_mem_lexFrom`), so a reader that
sees this kind has read all lexemes. Whatever is wrong with a lexeme, its error cuts a stretch out of
the text (`lexFrom_cuts`). Most errors cover their lexeme. Those of a template literal start at what
was left open, which may be deep inside the literal, so the things open must all have been met on the
way (`Met`).
-/

namespace ScriptLint.Lexeme

open Text

theorem join_append (s t : List Lexeme) : join (s ++ t) = join s ++ join t := by
  simp [join]

theorem join_cons (l : Lexeme) (ls : List Lexeme) : join (l :: ls) = l.text ++ join ls := rfl

theorem size_join_append (s t : List Lexeme) :
    Text.size (join (s ++ t)) = Text.size (join s) + Text.size (join t) := by
  rw [join_append, size_append]

/-- An offset that was met while the text `read` was read from `base` on. -/
def Met (base : Nat) (read : Text) (n : Nat) : Prop :=
  ∃ before inside, read = before ++ inside ∧ n = base + Text.size before

variable {base n : Nat} {read : Text}

theorem met_here (base : Nat) (read : Text) : Met base read (base + Text.size read) :=
  ⟨read, [], by simp, rfl⟩

theorem Met.append (h : Met base read n) (more : Text) : Met base (read ++ more) n := by
  obtain ⟨before, inside, rfl, rfl⟩ := h
  exact ⟨before, inside ++ more, by simp, rfl⟩

/-- What reaches from an offset that was met up to the place of reading is a stretch. -/
theorem Met.cuts (h : Met base read n) (rest : Text) :
    (Span.mk n (base + Text.size read)).Cuts base (read ++ rest) := by
  obtain ⟨before, inside, rfl, rfl⟩ := h
  exact ⟨before, inside, rest, rfl, rfl, by simp only [size_append]; omega⟩

namespace Open

def start : Open → Nat
  | .template start _ => start
  | .quoted start _ => start

theorem span_unclosed (offset : Nat) (o : Open) : (o.unclosed offset).span = ⟨o.start, offset⟩ := by
  cases o <;> rfl

theorem start_of_mem_after {offset : Nat} {c : Char} {o inner : Open}
    (h : inner ∈ (o.after offset c).1) : inner.start = o.start ∨ inner.start = offset := by
  fun_cases Open.after offset c o <;> simp_all [Open.after, start]
  all_goals rcases h with rfl | rfl <;> simp

theorem span_of_mem_after {offset : Nat} {c : Char} {o : Open} {e : SyntaxError}
    (h : e ∈ (o.after offset c).2) : e.span = ⟨o.start, offset⟩ := by
  fun_cases Open.after offset c o <;> simp_all [Open.after, start]

theorem start_of_entersSubstitution {c d : Char} {o entered : Open}
    (h : o.entersSubstitution c d = some entered) : entered.start = o.start := by
  fun_cases Open.entersSubstitution c d o <;> simp_all [entersSubstitution]
  exact h ▸ rfl

end Open

/-- What is open once a character was read had been met by then. -/
theorem met_of_mem_after {c : Char} {o : Open} {opens : List Open}
    (met : ∀ p ∈ o :: opens, Met base read p.start) :
    ∀ p ∈ (o.after (base + Text.size read) c).1 ++ opens, Met base (read ++ [c]) p.start := by
  intro p mem
  rcases List.mem_append.1 mem with inner | outer
  · rcases Open.start_of_mem_after inner with same | here
    · rw [same]
      exact (met o List.mem_cons_self).append [c]
    · rw [here]
      exact (met_here base read).append [c]
  · exact (met p (List.mem_cons_of_mem o outer)).append [c]

theorem cuts_of_mem_after {c : Char} {o : Open} {e : SyntaxError} (met : Met base read o.start)
    (h : e ∈ (o.after (base + Text.size read) c).2) (rest : Text) :
    e.span.Cuts base (read ++ rest) := by
  rw [Open.span_of_mem_after h]
  exact met.cuts rest

/-- The errors of a template literal, read from inside it on, when all that is open has been met. -/
theorem scanTemplate_cuts (base : Nat) (read : Text) (offset : Nat) (opens : List Open) (cs : Text)
    (here : offset = base + Text.size read) (met : ∀ o ∈ opens, Met base read o.start) :
    ∀ e ∈ (scanTemplate offset opens cs).2, e.span.Cuts base (read ++ cs) := by
  fun_induction scanTemplate offset opens cs generalizing read with
  | case1 => simp
  | case2 offset opens =>
    subst here
    intro e mem
    obtain ⟨o, among, rfl⟩ := List.mem_map.1 mem
    rw [Open.span_unclosed]
    exact (met o among).cuts []
  | case3 offset o opens c inner errors eq cut more eqMore ih =>
    subst here
    have metAfter := met_of_mem_after (c := c) met
    rw [eq] at metAfter
    intro e mem
    rcases List.mem_append.1 mem with now | later
    · exact cuts_of_mem_after (met o List.mem_cons_self) (by rw [eq]; exact now) [c]
    · have := ih (read ++ [c]) (by simp [Nat.add_assoc]) metAfter e (by rw [eqMore]; exact later)
      simpa using this
  | case4 offset o opens c d cs _ cut more eqMore ih =>
    subst here
    intro e mem
    have := ih (read ++ [c, d]) (by simp [Nat.add_assoc])
      (fun p among => (met p among).append [c, d]) e (by rw [eqMore]; exact mem)
    simpa using this
  | case5 offset o opens c d cs _ entered eq cut more eqMore ih =>
    subst here
    have metEntered : ∀ p ∈ entered :: opens, Met base (read ++ [c, d]) p.start := by
      intro p among
      rcases List.mem_cons.1 among with rfl | outer
      · rw [Open.start_of_entersSubstitution eq]
        exact (met o List.mem_cons_self).append [c, d]
      · exact (met p (List.mem_cons_of_mem o outer)).append [c, d]
    intro e mem
    have := ih (read ++ [c, d]) (by simp [Nat.add_assoc]) metEntered e
      (by rw [eqMore]; exact mem)
    simpa using this
  | case6 offset o opens c d cs _ _ inner errors eq cut more eqMore ih =>
    subst here
    have metAfter := met_of_mem_after (c := c) met
    rw [eq] at metAfter
    intro e mem
    rcases List.mem_append.1 mem with now | later
    · exact cuts_of_mem_after (met o List.mem_cons_self) (by rw [eq]; exact now) (c :: d :: cs)
    · have := ih (read ++ [c]) (by simp [Nat.add_assoc]) metAfter e (by rw [eqMore]; exact later)
      simpa using this

/-- An error that covers its lexeme. -/
theorem unfinished_cuts {problem : SyntaxProblem} {start : Nat} {first : Char} {closed : Bool}
    (taken rest : Text) :
    ∀ e ∈ unfinished problem start first taken closed,
      e.span.Cuts start (first :: taken ++ rest) := by
  intro e mem
  cases closed with
  | true => simp [unfinished] at mem
  | false =>
    obtain rfl : e = _ := List.mem_singleton.1 mem
    exact ⟨[], first :: taken, rest, rfl, rfl, by simp [Nat.add_assoc]⟩

theorem scan_cuts (start : Nat) (first : Char) (cs : Text) :
    ∀ e ∈ (scan start first cs).errors, e.span.Cuts start (first :: cs) := by
  have covered {problem : SyntaxProblem} (closed : Bool) (cut : Cut cs) :
      ∀ e ∈ unfinished problem start first cut.taken closed, e.span.Cuts start (first :: cs) := by
    simpa [cut.joined] using unfinished_cuts cut.taken cut.rest
  have template := scanTemplate_cuts start [first] (start + first.utf8Size)
    [.template start 0] cs (by simp)
    (fun o among => ⟨[], [first], rfl, by rw [List.mem_singleton.1 among]; rfl⟩)
  unfold scan
  split
  · simp
  split
  · simp
  split
  · exact covered _ _
  split
  · simp
  split
  · exact covered _ _
  split
  · simpa using template
  split
  · simp [scanWord]
  · simp only [scanPunctuation]
    split
    · simp
    · exact covered false (.none cs)

theorem lexFrom_cuts (offset : Nat) (text : Text) :
    ∀ e ∈ (lexFrom offset text).2, e.span.Cuts offset text := by
  fun_induction lexFrom offset text with
  | case1 => simp
  | case2 offset c cs s lexemes errors eq ih =>
    intro e mem
    rcases List.mem_append.1 mem with first | later
    · exact scan_cuts offset c cs e first
    · rw [eq] at ih
      have behind := ih e later
      have cut : c :: cs = (c :: s.cut.taken) ++ s.cut.rest := by simp [s.cut.joined]
      rw [cut]
      exact Span.Cuts.behind (by simpa [Nat.add_assoc] using behind)

theorem kind_scanWord (first : Char) (cs : Text) : (scanWord first cs).kind ≠ .endOfInput := by
  have all : ∀ entry ∈ SyntaxKind.reserved, entry.2 ≠ .endOfInput := by decide
  simp only [scanWord]
  cases found : SyntaxKind.ofReserved? (String.ofList (first :: (Cut.run isWordPart cs).taken)) with
  | none => simp
  | some kind =>
    obtain ⟨before, after, among, _⟩ := List.lookup_eq_some_iff.1 found
    exact all _ (among ▸ List.mem_append_right before List.mem_cons_self)

theorem kind_scanPunctuation (start : Nat) (first : Char) (cs : Text) :
    (scanPunctuation start first cs).kind ≠ .endOfInput := by
  have all : ∀ entry ∈ punctuation, entry.2 ≠ .endOfInput := by decide
  unfold scanPunctuation
  split
  · rename_i found
    exact all _ (List.mem_of_find?_eq_some found)
  · simp

theorem kind_scan (start : Nat) (first : Char) (cs : Text) :
    (scan start first cs).kind ≠ .endOfInput := by
  unfold scan
  repeat' split
  all_goals first | exact kind_scanWord first cs | exact kind_scanPunctuation start first cs | simp

/-- The kind that stands for the end of a text is the kind of no lexeme. -/
theorem kind_of_mem_lexFrom (offset : Nat) (text : Text) :
    ∀ l ∈ (lexFrom offset text).1, l.kind ≠ .endOfInput := by
  fun_induction lexFrom offset text with
  | case1 => simp
  | case2 offset c cs s lexemes errors eq ih =>
    rw [eq] at ih
    intro l mem
    rcases List.mem_cons.1 mem with rfl | later
    · exact kind_scan offset c cs
    · exact ih l later

/-- No lexeme is empty. -/
theorem text_ne_nil_of_mem_lexFrom (offset : Nat) (text : Text) :
    ∀ l ∈ (lexFrom offset text).1, l.text ≠ [] := by
  fun_induction lexFrom offset text with
  | case1 => simp
  | case2 offset c cs s lexemes errors eq ih =>
    rw [eq] at ih
    intro l mem
    rcases List.mem_cons.1 mem with rfl | later
    · exact List.cons_ne_nil c _
    · exact ih l later

end ScriptLint.Lexeme
