import ScriptLint.Proofs.Source.Partition
import ScriptLint.Proofs.Syntax.Relexing

/-!
# The grammar of template literals

A template literal is told by rules that say nothing of how it is read. Its substitutions nest braces,
strings and templates in any depth. What the scanner reads to its end without an error are the texts
that these rules make: a text of the grammar is taken off the front of any text (`takes_templateRest`,
`takes_substitution`), and what closes all that is open comes in parts of the grammar, one for each
thing open and each brace (`Closes`, `Steps.closes`).
-/

namespace ScriptLint

open Text Lexeme

/-! ## The grammar -/

/-- The rest of a string behind its quote. -/
inductive IsStringRest (quote : Char) : Text → Prop where
  | close : IsStringRest quote [quote]
  | escape {t : Text} (c : Char) (rest : IsStringRest quote t) : IsStringRest quote ('\\' :: c :: t)
  | char {c : Char} {t : Text} (unbroken : isLineBreak c = false) (inside : c ≠ quote)
      (plain : c ≠ '\\') (rest : IsStringRest quote t) : IsStringRest quote (c :: t)

def IsString (t : Text) : Prop :=
  ∃ quote rest, isQuote quote = true ∧ t = quote :: rest ∧ IsStringRest quote rest

theorem IsString.length_pos {t : Text} (string : IsString t) : 0 < t.length := by
  obtain ⟨quote, rest, -, rfl, -⟩ := string
  exact Nat.succ_pos _

mutual
/-- The rest of a template behind its backtick. -/
inductive IsTemplateRest : Text → Prop where
  | close : IsTemplateRest [backtick]
  | escape {t : Text} (c : Char) (rest : IsTemplateRest t) : IsTemplateRest ('\\' :: c :: t)
  | substitution {s t : Text} (inner : IsSubstitution s) (rest : IsTemplateRest t) :
      IsTemplateRest ('$' :: '{' :: (s ++ '}' :: t))
  | char {c : Char} {t : Text} (inside : c ≠ backtick) (plain : c ≠ '\\')
      (alone : ¬ (c = '$' ∧ t.head? = some '{')) (rest : IsTemplateRest t) : IsTemplateRest (c :: t)

/-- What may stand between the braces of a substitution. -/
inductive IsSubstitution : Text → Prop where
  | nil : IsSubstitution []
  | braces {s t : Text} (inner : IsSubstitution s) (rest : IsSubstitution t) :
      IsSubstitution ('{' :: (s ++ '}' :: t))
  | string {s t : Text} (inner : IsString s) (rest : IsSubstitution t) : IsSubstitution (s ++ t)
  | template {s t : Text} (inner : IsTemplateRest s) (rest : IsSubstitution t) :
      IsSubstitution (backtick :: (s ++ t))
  | char {c : Char} {t : Text} (unopened : c ≠ '{') (unclosed : c ≠ '}')
      (unquoted : isQuote c = false) (outside : c ≠ backtick) (rest : IsSubstitution t) :
      IsSubstitution (c :: t)
end

def IsTemplate (t : Text) : Prop := ∃ rest, t = backtick :: rest ∧ IsTemplateRest rest

/-! ## Texts of the grammar are read -/

namespace Lexeme

/-- Where the reading of a template literal has got to. -/
structure Midway where
  offset : Nat
  opens : List Open
  behind : Text

/-- Whether a text is taken from one place to another, without an error between. -/
def Takes (t : Text) (m m' : Midway) : Prop :=
  (scanTemplate m.offset m.opens m.behind).1.taken =
      t ++ (scanTemplate m'.offset m'.opens m'.behind).1.taken ∧
    (scanTemplate m.offset m.opens m.behind).2 = (scanTemplate m'.offset m'.opens m'.behind).2

section
variable {offset : Nat} {o : Open} {opens inner : List Open} {c d : Char} {cs rest t u : Text}
  {m m' m'' : Midway}

theorem Takes.refl (m : Midway) : Takes [] m m := ⟨rfl, rfl⟩

theorem Takes.trans (first : Takes t m m') (second : Takes u m' m'') : Takes (t ++ u) m m'' :=
  ⟨by rw [first.1, second.1, List.append_assoc], first.2.trans second.2⟩

/-- A character that is read on its own and makes no error. -/
theorem takes_char (plain : ¬ (c = '\\' ∧ o.escapes = true))
    (enters : ∀ d, cs.head? = some d → o.entersSubstitution c d = none)
    (after : o.after offset c = (inner, [])) (opens : List Open) :
    Takes [c] ⟨offset, o :: opens, c :: cs⟩
      ⟨offset + c.utf8Size, inner ++ opens, cs⟩ := by
  obtain ⟨taken, errors⟩ := scanTemplate_step offset opens plain enters
  rw [after] at taken errors
  exact ⟨taken, errors⟩

theorem takes_escape (escapes : o.escapes = true) (offset : Nat) (opens : List Open) (c : Char)
    (cs : Text) :
    Takes ['\\', c] ⟨offset, o :: opens, '\\' :: c :: cs⟩
      ⟨offset + '\\'.utf8Size + c.utf8Size, o :: opens, cs⟩ := by
  rw [Takes, scanTemplate.eq_4, if_pos ⟨rfl, escapes⟩]
  exact ⟨rfl, rfl⟩

theorem takes_string {quote : Char} (quotes : isQuote quote = true) (string : IsStringRest quote t)
    (offset start : Nat) (opens : List Open) (rest : Text) :
    Takes t ⟨offset, .quoted start quote :: opens, t ++ rest⟩
      ⟨offset + Text.size t, opens, rest⟩ := by
  induction string generalizing offset with
  | close =>
    have closes : (Open.quoted start quote).after offset quote = ([], []) := by
      simp [Open.after, isLineBreak_of_isQuote quotes]
    exact takes_char (fun escape => Open.ne_backslash_of_isQuote quotes escape.1) (fun _ _ => rfl)
      closes opens
  | escape c _ ih =>
    have escapes : (Open.quoted start quote).escapes = true := rfl
    have later := (takes_escape escapes offset opens c _).trans
      (ih (offset + '\\'.utf8Size + c.utf8Size))
    rwa [Nat.add_assoc, Nat.add_assoc] at later
  | @char c t unbroken inside plain _ ih =>
    have stays : (Open.quoted start quote).after offset c = ([.quoted start quote], []) := by
      simp [Open.after, unbroken, inside]
    have later := (takes_char (fun escape => plain escape.1) (fun _ _ => rfl) stays opens).trans
      (ih (offset + c.utf8Size))
    rwa [Nat.add_assoc] at later

/-- A character of a substitution is no escape and enters no other substitution. -/
theorem takes_inner {start braces : Nat}
    (after : (Open.template start (braces + 1)).after offset c = (inner, [])) (opens : List Open)
    (cs : Text) :
    Takes [c] ⟨offset, .template start (braces + 1) :: opens, c :: cs⟩
      ⟨offset + c.utf8Size, inner ++ opens, cs⟩ := by
  have plain : ¬ (c = '\\' ∧ (Open.template start (braces + 1)).escapes = true) :=
    fun escape => Bool.false_ne_true escape.2
  exact takes_char plain (fun _ _ => rfl) after opens

theorem takes_enter {start : Nat} :
    Takes ['$', '{'] ⟨offset, .template start 0 :: opens, '$' :: '{' :: cs⟩
      ⟨offset + '$'.utf8Size + '{'.utf8Size, .template start 1 :: opens, cs⟩ := by
  rw [Takes, scanTemplate.eq_4, if_neg fun escape => absurd escape.1 (by decide)]
  exact ⟨rfl, rfl⟩

theorem takes_leave {start braces : Nat} :
    Takes ['}'] ⟨offset, .template start (braces + 1) :: opens, '}' :: cs⟩
      ⟨offset + '}'.utf8Size, .template start braces :: opens, cs⟩ :=
  takes_inner (show (Open.template start (braces + 1)).after offset '}' = ([.template start braces], [])
    from rfl) opens cs

end

mutual
/-- The rest of a template is taken off the front of any text, and closes the template. -/
theorem takes_templateRest {t : Text} (template : IsTemplateRest t) (offset start : Nat)
    (opens : List Open) (rest : Text) :
    Takes t ⟨offset, .template start 0 :: opens, t ++ rest⟩
      ⟨offset + Text.size t, opens, rest⟩ := by
  cases template with
  | close =>
    have closes : (Open.template start 0).after offset backtick = ([], []) := by simp [Open.after]
    refine takes_char (fun escape => absurd escape.1 (by decide)) (fun d _ => ?_) closes opens
    simp [Open.entersSubstitution, show backtick ≠ '$' by decide]
  | @escape t c tail =>
    have escapes : (Open.template start 0).escapes = true := rfl
    have later := (takes_escape escapes offset opens c _).trans
      (takes_templateRest tail (offset + '\\'.utf8Size + c.utf8Size) start opens rest)
    rwa [Nat.add_assoc, Nat.add_assoc] at later
  | @substitution s t inner tail =>
    have inside := takes_substitution inner (offset + '$'.utf8Size + '{'.utf8Size) start 0 opens
      ('}' :: (t ++ rest))
    have behind := takes_templateRest tail
      (offset + '$'.utf8Size + '{'.utf8Size + Text.size s + '}'.utf8Size) start opens rest
    have whole := takes_enter.trans (inside.trans (takes_leave.trans behind))
    simpa [Nat.add_assoc] using whole
  | @char c t inside plain alone tail =>
    have stays : (Open.template start 0).after offset c = ([.template start 0], []) := by
      simp [Open.after, inside]
    have enters : ∀ d, (t ++ rest).head? = some d →
        (Open.template start 0).entersSubstitution c d = none := by
      intro d head
      have some : t ≠ [] := by
        rintro rfl
        cases tail
      obtain ⟨e, t, rfl⟩ := List.exists_cons_of_ne_nil some
      obtain rfl : e = d := Option.some.inj head
      exact if_neg fun both => alone ⟨both.1, congrArg Option.some both.2⟩
    have later := (takes_char (fun escape => plain escape.1) enters stays opens).trans
      (takes_templateRest tail (offset + c.utf8Size) start opens rest)
    rwa [Nat.add_assoc] at later
termination_by t.length
decreasing_by all_goals simp only [List.length_cons, List.length_append]; omega

/-- What stands in a substitution is taken off the front of any text, and leaves the braces open. -/
theorem takes_substitution {t : Text} (inner : IsSubstitution t) (offset start braces : Nat)
    (opens : List Open) (rest : Text) :
    Takes t ⟨offset, .template start (braces + 1) :: opens, t ++ rest⟩
      ⟨offset + Text.size t, .template start (braces + 1) :: opens, rest⟩ := by
  cases inner with
  | nil => exact .refl _
  | @braces s t inner tail =>
    have opened : (Open.template start (braces + 1)).after offset '{' =
        ([.template start (braces + 2)], []) := rfl
    have enter := takes_inner opened opens (s ++ '}' :: (t ++ rest))
    have inside := takes_substitution inner (offset + '{'.utf8Size) start (braces + 1) opens
      ('}' :: (t ++ rest))
    have behind := takes_substitution tail (offset + '{'.utf8Size + Text.size s + '}'.utf8Size)
      start braces opens rest
    have whole := enter.trans (inside.trans (takes_leave.trans behind))
    simpa [Nat.add_assoc] using whole
  | @string s t inner tail =>
    have filled : 0 < s.length := inner.length_pos
    obtain ⟨quote, q, quotes, rfl, string⟩ := inner
    have quoted : (Open.template start (braces + 1)).after offset quote =
        ([.quoted offset quote, .template start (braces + 1)], []) := Open.after_quote quotes
    have enter := takes_inner quoted opens (q ++ (t ++ rest))
    have inside := takes_string quotes string (offset + quote.utf8Size) offset
      (.template start (braces + 1) :: opens) (t ++ rest)
    have behind := takes_substitution tail (offset + quote.utf8Size + Text.size q) start braces
      opens rest
    have whole := enter.trans (inside.trans behind)
    simpa [Nat.add_assoc] using whole
  | @template s t inner tail =>
    have ticked : (Open.template start (braces + 1)).after offset backtick =
        ([.template offset 0, .template start (braces + 1)], []) := rfl
    have enter := takes_inner ticked opens (s ++ (t ++ rest))
    have inside := takes_templateRest inner (offset + backtick.utf8Size) offset
      (.template start (braces + 1) :: opens) (t ++ rest)
    have behind := takes_substitution tail (offset + backtick.utf8Size + Text.size s) start braces
      opens rest
    have whole := enter.trans (inside.trans behind)
    simpa [Nat.add_assoc] using whole
  | @char c t unopened unclosed unquoted outside tail =>
    have stays : (Open.template start (braces + 1)).after offset c =
        ([.template start (braces + 1)], []) := by
      simp [Open.after, unopened, unclosed, unquoted, outside]
    have later := (takes_inner stays opens _).trans
      (takes_substitution tail (offset + c.utf8Size) start braces opens rest)
    rwa [Nat.add_assoc] at later
termination_by t.length
decreasing_by all_goals simp only [List.length_cons, List.length_append]; omega
end

/-! ## Texts that are read are of the grammar -/

/-- Whether a text closes what is open: for each thing open the rest of it, and for each brace of a
substitution what stands before its end. -/
inductive Closes : List Open → Text → Prop where
  | nil : Closes [] []
  | template {start : Nat} {opens : List Open} {s t : Text} (rest : IsTemplateRest s)
      (later : Closes opens t) : Closes (.template start 0 :: opens) (s ++ t)
  | brace {start braces : Nat} {opens : List Open} {s t : Text} (inner : IsSubstitution s)
      (later : Closes (.template start braces :: opens) t) :
      Closes (.template start (braces + 1) :: opens) (s ++ '}' :: t)
  | string {start : Nat} {quote : Char} {opens : List Open} {s t : Text}
      (rest : IsStringRest quote s) (later : Closes opens t) :
      Closes (.quoted start quote :: opens) (s ++ t)

section
variable {offset start braces : Nat} {o : Open} {opens : List Open} {c d quote : Char} {t : Text}

theorem Closes.escape (escapes : o.escapes = true) (closes : Closes (o :: opens) t) :
    Closes (o :: opens) ('\\' :: c :: t) := by
  cases closes with
  | template rest later => exact .template (.escape c rest) later
  | brace => cases escapes
  | string rest later => exact .string (.escape c rest) later

theorem Closes.enter (closes : Closes (.template start 1 :: opens) t) :
    Closes (.template start 0 :: opens) ('$' :: '{' :: t) := by
  cases closes with
  | @brace _ _ _ s t inner later =>
    cases later with
    | @template _ _ u t rest later =>
      have whole : Closes (.template start 0 :: opens) _ := .template (.substitution inner rest) later
      simpa using whole

/-- A character read on its own in a string. -/
theorem Closes.char_string (plain : c ≠ quote → c ≠ '\\')
    (clean : ((Open.quoted start quote).after offset c).2 = [])
    (later : Closes (((Open.quoted start quote).after offset c).1 ++ opens) t) :
    Closes (.quoted start quote :: opens) (c :: t) := by
  simp only [Open.after] at clean later
  split at clean
  · cases clean
  rename_i unbroken
  rw [if_neg unbroken] at later
  split at later
  · rename_i ends
    exact ends ▸ .string .close later
  · rename_i inside
    cases later with
    | string rest later => exact .string (.char (by simpa using unbroken) inside (plain inside) rest) later

/-- A character read on its own in a template outside of its substitutions. -/
theorem Closes.char_template (plain : c ≠ backtick → c ≠ '\\') (alone : ¬ (c = '$' ∧ t.head? = some '{'))
    (later : Closes (((Open.template start 0).after offset c).1 ++ opens) t) :
    Closes (.template start 0 :: opens) (c :: t) := by
  simp only [Open.after] at later
  split at later
  · rename_i ends
    exact ends ▸ .template .close later
  · rename_i inside
    cases later with
    | @template _ _ s t rest later =>
      refine .template (.char inside (plain inside) (fun both => alone ⟨both.1, ?_⟩) rest) later
      rw [List.head?_append, both.2, Option.some_or]

/-- A character read on its own in a substitution. -/
theorem Closes.char_substitution
    (later : Closes (((Open.template start (braces + 1)).after offset c).1 ++ opens) t) :
    Closes (.template start (braces + 1) :: opens) (c :: t) := by
  simp only [Open.after] at later
  split at later
  · rename_i opened
    subst opened
    cases later with
    | @brace _ _ _ s t inner later =>
      cases later with
      | @brace _ _ _ u t rest later =>
        have whole := Closes.brace (.braces inner rest) later
        simpa using whole
  rename_i unopened
  split at later
  · rename_i closed
    exact closed ▸ .brace .nil later
  rename_i unclosed
  split at later
  · rename_i quotes
    cases later with
    | @string _ _ _ s t rest later =>
      cases later with
      | @brace _ _ _ u t inner later =>
        have string : IsString (c :: s) := ⟨c, s, quotes, rfl, rest⟩
        have whole := Closes.brace (.string string inner) later
        simpa using whole
  rename_i unquoted
  split at later
  · rename_i ticked
    subst ticked
    cases later with
    | @template _ _ s t rest later =>
      cases later with
      | @brace _ _ _ u t inner later =>
        have whole := Closes.brace (.template rest inner) later
        simpa using whole
  · rename_i outside
    cases later with
    | @brace _ _ _ s t inner later =>
      exact .brace (.char unopened unclosed (by simpa using unquoted) outside inner) later

/-- A character read on its own, be it a backslash that closes what is open. -/
theorem Closes.char (plain : (o.after offset c).1 ≠ [] → ¬ (c = '\\' ∧ o.escapes = true))
    (enters : ∀ d, t.head? = some d → o.entersSubstitution c d = none)
    (clean : (o.after offset c).2 = []) (later : Closes ((o.after offset c).1 ++ opens) t) :
    Closes (o :: opens) (c :: t) := by
  cases o with
  | quoted start quote =>
    refine .char_string (fun inside escape => plain ?_ ⟨escape, rfl⟩) clean later
    subst escape
    simp [Open.after, inside, isLineBreak]
  | template start braces =>
    cases braces with
    | zero =>
      refine .char_template (fun inside escape => plain ?_ ⟨escape, rfl⟩) (fun both => ?_) later
      · simp [Open.after, inside]
      · have entered := enters '{' both.2
        rw [both.1] at entered
        cases entered
    | succ braces => exact .char_substitution later

end

/-- What is taken without an error closes all that is open. -/
theorem Steps.closes {offset : Nat} {opens : List Open} {cs taken rest : Text}
    {errors : List SyntaxError} (steps : Steps offset opens cs taken rest errors)
    (clean : errors = []) : Closes opens taken := by
  induction steps with
  | closed => exact .nil
  | ended => cases clean
  | escape escapes _ ih => exact (ih clean).escape escapes
  | enter _ enters _ ih =>
    obtain ⟨start, rfl, rfl, rfl, rfl⟩ := Open.entersSubstitution_eq_some enters
    exact (ih clean).enter
  | @char offset o opens c cs taken rest _ plain alone more ih =>
    obtain ⟨cleanHere, cleanMore⟩ := List.append_eq_nil_iff.1 clean
    subst cleanMore
    refine .char (fun open_ => plain ?_) (fun d head => alone d ?_) cleanHere (ih rfl)
    · rintro rfl
      exact open_ (List.append_eq_nil_iff.1 more.opens_eq_nil).1
    · exact more.head?_of_taken head

/-- A template literal that is read without an error is one of the grammar. -/
theorem isTemplate_of_clean {offset start : Nat} {cs : Text}
    (clean : (scanTemplate offset [.template start 0] cs).2 = []) :
    IsTemplate (backtick :: (scanTemplate offset [.template start 0] cs).1.taken) := by
  refine ⟨_, rfl, ?_⟩
  have closes := (steps_scanTemplate offset [.template start 0] cs).closes clean
  generalize (scanTemplate offset [.template start 0] cs).1.taken = t at closes
  cases closes with
  | @template _ _ s t rest later =>
    cases later
    rwa [List.append_nil]

theorem scan_backtick (start : Nat) (cs : Text) : scan start backtick cs =
    ⟨.template, (scanTemplate (start + backtick.utf8Size) [.template start 0] cs).1,
      (scanTemplate (start + backtick.utf8Size) [.template start 0] cs).2⟩ := by
  have number : ¬ (backtick.isDigit ∨ (backtick = '.' ∧ cs.head?.any Char.isDigit)) :=
    fun digit => digit.elim (absurd · (by decide)) fun point => absurd point.1 (by decide)
  rw [scan_of_ne_slash start (by decide), if_neg (by decide), if_neg number, if_neg (by decide),
    if_pos rfl]

/-- A template literal of the grammar stands before any text. -/
theorem stands_template {t : Text} (template : IsTemplate t) (behind : Text) :
    (Lexeme.mk .template t).Stands behind := by
  obtain ⟨rest, rfl, template⟩ := template
  refine ⟨backtick, rest, rfl, fun start => ?_⟩
  obtain ⟨taken, clean⟩ :=
    takes_templateRest template (start + backtick.utf8Size) start [] behind
  rw [scanTemplate.eq_1] at taken clean
  rw [scan_backtick]
  exact ⟨rfl, taken.trans (List.append_nil rest), clean⟩

/-- Only a backtick starts a template literal. -/
theorem eq_backtick_of_kind {start : Nat} {first : Char} {cs : Text}
    (kind : (scan start first cs).kind = .template) : first = backtick := by
  have all : ∀ entry ∈ punctuation, entry.2 ≠ .template := by decide
  unfold scan at kind
  repeat' split at kind
  any_goals cases kind
  · assumption
  · exact absurd kind (kind_scanWord_ne (by decide) first cs)
  · unfold scanPunctuation at kind
    split at kind
    · rename_i found
      exact absurd kind (all _ (List.mem_of_find?_eq_some found))
    · cases kind

end Lexeme

/-- Template literals are the tokens of their grammar. A text of the grammar is the first token of any
text that it stands in front of, with no error in it. And a template token with no error in it is a text
of the grammar, wherever it stands. -/
theorem templates_recognised :
    (∀ t behind, IsTemplate t → ∃ later,
      TokenStream.ofText (t ++ behind) = ⟨.template, t, 0⟩ :: later ∧
        ∀ e ∈ (lex (t ++ behind)).errors, ¬ (Token.mk .template t 0).Holds e) ∧
    ∀ text, ∀ token ∈ TokenStream.ofText text, token.kind = .template →
      (∀ e ∈ (lex text).errors, ¬ token.Holds e) → IsTemplate token.text := by
  constructor
  · intro t behind template
    have first := lexFrom_of_stands (stands_template template behind) 0
    refine ⟨tokensFrom (0 + Text.size t) (lexFrom (0 + Text.size t) behind).1, ?_, ?_⟩
    · show tokensFrom 0 (lexFrom 0 (t ++ behind)).1 = _
      rw [first]
      rfl
    · show ∀ e ∈ (lexFrom 0 (t ++ behind)).2, _
      rw [first]
      intro e mem holds
      obtain ⟨filled, u, among, inside⟩ := TokenStream.exists_holds_of_mem mem
      have bounds := TokenStream.bounds_of_mem_tokensFrom among
      have stop : e.span.stop ≤ 0 + Text.size t := holds.2
      have start : u.start ≤ e.span.start := inside.1
      simp only [Lexeme.size] at bounds
      omega
  · intro text token mem kind clean
    obtain ⟨errors, read, among⟩ := TokenStream.exists_read_of_mem mem
    have none : errors = [] := List.eq_nil_iff_forall_not_mem.2 fun e mem =>
      clean e (among e mem) ⟨(read.bounds e mem).1, (read.bounds e mem).2.2⟩
    obtain ⟨c, cs, kind', text, errors'⟩ := read
    obtain rfl := eq_backtick_of_kind (kind'.symm.trans kind)
    rw [scan_backtick] at text errors'
    rw [text]
    exact isTemplate_of_clean (errors'.symm.trans none)

/-- A template literal with two more inside it, a string that holds a brace and an escaped quote, a pair
of braces, and a dollar sign that enters nothing. -/
def nestedTemplate : Text :=
  [backtick, '$', '\\', backtick, '$', '{', '{', 'a', ':', '\'', '}', '\\', '\'', '\'', '}', '[',
    backtick, '$', '{', backtick, 'é', backtick, '}', backtick, ']', '}', '$', backtick]

/-- The nested template is found alone, so it is one of the grammar, and it is also found in front of
what looks like more of it. -/
theorem templates_recognised_nested :
    IsTemplate nestedTemplate ∧ ∃ later,
      TokenStream.ofText (nestedTemplate ++ ['}', backtick]) = ⟨.template, nestedTemplate, 0⟩ :: later := by
  have alone : TokenStream.ofText nestedTemplate =
      [⟨.template, nestedTemplate, 0⟩] := by decide +kernel
  have clean : (lex nestedTemplate).errors = [] := by decide +kernel
  have template : IsTemplate nestedTemplate :=
    templates_recognised.2 nestedTemplate ⟨.template, nestedTemplate, 0⟩
      (by rw [alone]; exact List.mem_cons_self) rfl
      (by rw [clean]; exact fun _ mem => absurd mem List.not_mem_nil)
  obtain ⟨later, first, -⟩ := templates_recognised.1 nestedTemplate ['}', backtick] template
  exact ⟨template, later, first⟩

end ScriptLint
