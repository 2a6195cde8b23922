import ScriptLint.Proofs.Rules.Zeroed
import ScriptLint.Proofs.Syntax.Relexing.Continued

/-!
# Lexemes with carriage returns before their line feeds

White space, comments and templates are read with returns put before their feeds as they were read
without, and so are strings that continue no line. No other lexeme holds a line feed. So the lexemes
of a text stay what they are (`Stands.withReturns`), unless one `continuesLine`: then the text has an
error there (`Stands.errors_withReturns`). A string does so if a backslash takes a line feed with it, a
template if a string in it does.
-/

namespace ScriptLint

namespace Lexeme

open Text

variable {l : Lexeme} {t behind : Text} {first : Char} {kind : SyntaxKind}

theorem scan_quote (quotes : isQuote first = true) (start : Nat) (cs : Text) :
    scan start first cs = ⟨.string, (scanString first cs).1,
      unfinished .unterminatedString start first (scanString first cs).1.taken
        (scanString first cs).2⟩ := by
  rcases (by simpa [isQuote] using quotes : first = '"' ∨ first = '\'') with rfl | rfl <;>
    rw [scan_of_ne_slash start (by decide), if_neg (by decide), if_neg (by simp), if_pos (by decide)]

theorem scan_tick (start : Nat) (cs : Text) : scan start backtick cs =
    ⟨.template, (scanTemplate (start + backtick.utf8Size) [.template start 0] cs).1,
      (scanTemplate (start + backtick.utf8Size) [.template start 0] cs).2⟩ := by
  rw [scan_of_ne_slash start (by decide), if_neg (by decide), if_neg (by simp [backtick]),
    if_neg (by decide), if_pos rfl]

theorem scan_blockComment (start : Nat) (cs : Text) : scan start '/' ('*' :: cs) =
    ⟨.blockComment, (scanComment cs).1.cons '*', unfinished .unterminatedComment start '/'
      ('*' :: (scanComment cs).1.taken) (scanComment cs).2⟩ := by
  rw [scan_slash, if_neg (by simp), if_pos (by rfl)]
  rfl

theorem stands_blank_iff (blank : isBlank first = true) :
    (Lexeme.mk .whitespace (first :: t)).Stands behind ↔
      t.all isBlank = true ∧ behind.head?.any isBlank = false := by
  rw [← Cut.taken_run_iff]
  have scans (start : Nat) (cs : Text) : scan start first cs = ⟨.whitespace, .run isBlank cs, []⟩ :=
    if_pos blank
  constructor
  · rintro ⟨_, _, text, isOf⟩
    obtain ⟨rfl, rfl⟩ := List.cons.inj text
    have isOf := isOf 0
    rw [scans] at isOf
    exact isOf.taken
  · intro taken
    refine ⟨first, t, rfl, fun start => ?_⟩
    rw [scans]
    exact ⟨rfl, taken, rfl⟩

theorem stands_blockComment_iff : (Lexeme.mk .blockComment ('/' :: '*' :: t)).Stands behind ↔
    (scanComment (t ++ behind)).1.taken = t ∧ (scanComment (t ++ behind)).2 = true := by
  constructor
  · rintro ⟨_, _, text, isOf⟩
    obtain ⟨rfl, rfl⟩ := List.cons.inj text
    have isOf := isOf 0
    rw [List.cons_append, scan_blockComment] at isOf
    exact ⟨(List.cons.inj isOf.taken).2, unfinished_eq_nil.1 isOf.clean⟩
  · rintro ⟨taken, closed⟩
    refine ⟨'/', '*' :: t, rfl, fun start => ?_⟩
    rw [List.cons_append, scan_blockComment]
    exact ⟨rfl, congrArg ('*' :: ·) taken, unfinished_eq_nil.2 closed⟩

theorem stands_string_iff (quotes : isQuote first = true) :
    (Lexeme.mk .string (first :: t)).Stands behind ↔
      (scanString first (t ++ behind)).1.taken = t ∧ (scanString first (t ++ behind)).2 = true := by
  constructor
  · rintro ⟨_, _, text, isOf⟩
    obtain ⟨rfl, rfl⟩ := List.cons.inj text
    have isOf := isOf 0
    rw [scan_quote quotes] at isOf
    exact ⟨isOf.taken, unfinished_eq_nil.1 isOf.clean⟩
  · rintro ⟨taken, closed⟩
    refine ⟨first, t, rfl, fun start => ?_⟩
    rw [scan_quote quotes]
    exact ⟨rfl, taken, unfinished_eq_nil.2 closed⟩

theorem stands_template_iff : (Lexeme.mk .template (backtick :: t)).Stands behind ↔ ∀ start,
    (scanTemplate (start + backtick.utf8Size) [.template start 0] (t ++ behind)).1.taken = t ∧
      (scanTemplate (start + backtick.utf8Size) [.template start 0] (t ++ behind)).2 = [] := by
  constructor
  · rintro ⟨_, _, text, isOf⟩ start
    obtain ⟨rfl, rfl⟩ := List.cons.inj text
    have isOf := isOf start
    rw [scan_tick] at isOf
    exact ⟨isOf.taken, isOf.clean⟩
  · intro reads
    refine ⟨backtick, t, rfl, fun start => ?_⟩
    rw [scan_tick]
    exact ⟨rfl, (reads start).1, (reads start).2⟩

/-- A comment goes on to the end of its line, or starts with a star. -/
theorem Stands.comment (stands : (Lexeme.mk kind ('/' :: t)).Stands behind)
    (comment : kind.isComment = true) :
    kind = .lineComment ∧ t.all (fun c => ! isLineBreak c) = true ∨
      kind = .blockComment ∧ ∃ u, t = '*' :: u := by
  obtain ⟨_, _, text, isOf⟩ := stands
  obtain ⟨rfl, rfl⟩ := List.cons.inj text
  have isOf := isOf 0
  rw [scan_slash] at isOf
  split at isOf
  · exact .inl ⟨isOf.kind.symm, (Cut.taken_run_iff.1 isOf.taken).1⟩
  split at isOf
  · rename_i star
    refine .inr ⟨isOf.kind.symm, ?_⟩
    cases t with
    | cons c t => exact ⟨t, by rw [show c = '*' by simpa using star]⟩
    | nil =>
      cases behind with
      | nil => cases star
      | cons c cs => cases isOf.taken
  · have mark := isPunctuation_of_mem _ (scanPunctuation_isOf_iff.1 isOf).1
    have apart : kind.isPunctuation = true → kind.isComment = false := by cases kind <;> decide
    cases (apart mark).symm.trans comment

/-- A comment up to the end of its line starts with both of its slashes. -/
theorem Stands.slash (stands : (Lexeme.mk .lineComment ('/' :: t)).Stands behind) :
    ∃ body, t = '/' :: body := by
  obtain ⟨_, _, text, isOf⟩ := stands
  obtain ⟨rfl, rfl⟩ := List.cons.inj text
  have isOf := isOf 0
  rw [scan_slash] at isOf
  split at isOf
  · rename_i second
    cases t with
    | cons c t => exact ⟨t, by rw [show c = '/' by simpa using second]⟩
    | nil =>
      have ends := (Cut.taken_run_iff.1 isOf.taken).2
      rw [show behind.head? = some '/' from second] at ends
      cases ends
  split at isOf
  · cases isOf.kind
  · cases isPunctuation_of_mem _ (scanPunctuation_isOf_iff.1 isOf).1

section
variable {cs : Text}

theorem notMem_takeWhile {p : Char → Bool} {c : Char} (apart : p c = false) :
    c ∉ cs.takeWhile p := by
  intro mem
  rw [List.mem_takeWhile_imp mem] at apart
  cases apart

theorem feed_notMem_scanExponent : '\n' ∉ (scanExponent cs).taken := by
  have digits (ds : Text) : '\n' ∉ ds.takeWhile isDigitPart := notMem_takeWhile rfl
  have mark {e : Char} (marks : isExponentMark e = true) : '\n' ≠ e := by
    rintro rfl
    cases marks
  rcases exponentLead_cases cs with none | ⟨e, d, ds, rfl, marks, digit⟩ |
    ⟨e, s, d, ds, rfl, marks, other, sign, digit⟩
  · rw [taken_scanExponent_zero none]
    exact List.not_mem_nil
  · rw [taken_scanExponent_digit marks digit]
    exact fun mem => (List.mem_cons.1 mem).elim (mark marks) (digits _)
  · have plain : '\n' ≠ s := by
      rintro rfl
      cases sign
    rw [taken_scanExponent_sign marks other sign digit]
    intro mem
    rcases List.mem_cons.1 mem with same | later
    · exact mark marks same
    · exact (List.mem_cons.1 later).elim plain (digits _)

theorem feed_notMem_scanFraction : '\n' ∉ (scanFraction cs).taken := by
  rw [taken_scanFraction]
  split
  · rename_i point
    obtain ⟨ds, rfl⟩ := List.head?_eq_some_iff.1 point
    exact fun mem => (List.mem_cons.1 mem).elim (by decide) (notMem_takeWhile rfl)
  · exact List.not_mem_nil

theorem feed_notMem_scanNumber : '\n' ∉ (scanNumber first cs).taken := by
  rw [scanNumber]
  split
  · rename_i radix
    cases cs with
    | nil => exact List.not_mem_nil
    | cons c cs =>
      have plain : '\n' ≠ c := by
        rintro rfl
        cases radix.2
      exact fun mem => (List.mem_cons.1 mem).elim plain (notMem_takeWhile rfl)
  split
  · exact fun mem =>
      (List.mem_append.1 mem).elim (notMem_takeWhile rfl) feed_notMem_scanExponent
  · intro mem
    rcases List.mem_append.1 mem with mantissa | exponent
    · exact (List.mem_append.1 mantissa).elim (notMem_takeWhile rfl) feed_notMem_scanFraction
    · exact feed_notMem_scanExponent exponent

end

/-- How a lexeme may reach over the end of a line: only white space, block comments, strings and
templates hold a line feed. -/
inductive Reach : Lexeme → Prop
  | within {l : Lexeme} (none : '\n' ∉ l.text) (other : l.kind ≠ .string ∧ l.kind ≠ .template) :
      Reach l
  | blank {first : Char} {t : Text} (blank : isBlank first = true) :
      Reach ⟨.whitespace, first :: t⟩
  | comment {t : Text} : Reach ⟨.blockComment, '/' :: '*' :: t⟩
  | quoted {first : Char} {t : Text} (quotes : isQuote first = true) : Reach ⟨.string, first :: t⟩
  | template {t : Text} : Reach ⟨.template, backtick :: t⟩

theorem Stands.reach (stands : l.Stands behind) : Reach l := by
  cases stands.shape with
  | blank blank => exact .blank blank
  | @comment kind t comment =>
    rcases stands.comment comment with ⟨rfl, line⟩ | ⟨rfl, u, rfl⟩
    · refine .within (fun mem => ?_) ⟨by simp, by simp⟩
      rcases List.mem_cons.1 mem with same | among
      · cases same
      · cases List.all_eq_true.1 line _ among
    · exact .comment
  | quoted quotes => exact .quoted quotes
  | template => exact .template
  | @number first t digit taken =>
    have other : '\n' ≠ first := by
      rintro rfl
      simp at digit
    refine .within ?_ ⟨by simp, by simp⟩
    rw [← taken]
    exact fun mem => (List.mem_cons.1 mem).elim other feed_notMem_scanNumber
  | @word kind first t starts parts named =>
    have parts : ∀ c ∈ first :: t, isWordPart c = true := by
      simpa [isWordStart_isWordPart starts] using parts
    have other : kind.namesProperty = true → kind ≠ .string ∧ kind ≠ .template := by
      cases kind <;> decide
    refine .within (fun mem => absurd (parts _ mem) (by decide)) (other ?_)
    rw [← named]
    exact namesProperty_ofReserved _
  | @mark kind first t starts among =>
    have all : ∀ entry ∈ punctuation, '\n' ∉ entry.1 := by decide
    have other : kind.isPunctuation = true → kind ≠ .string ∧ kind ≠ .template := by
      cases kind <;> decide
    exact .within (all _ among) (other (isPunctuation_of_mem _ among))

/-- Words hold no line feed. -/
theorem Stands.feed_notMem_of_word (stands : l.Stands behind) (word : l.kind.namesProperty = true) :
    '\n' ∉ l.text := by
  cases stands.reach with
  | within none => exact none
  | blank | comment | quoted | template => cases word

theorem joints_breaks : ∀ p ∈ joints kind, p '\r' = p '\n' := by
  cases kind <;> decide

/-- A return before a feed is read with a lexeme only if the feed was. -/
theorem softens_withReturns (kind : SyntaxKind) (behind : Text) :
    Softens (joints kind) behind (withReturns behind) :=
  fun p among none => (any_head?_withReturns (joints_breaks p among) behind).trans none

theorem exponentLead_withReturns {cs : Text} (none : exponentLead cs = 0) :
    exponentLead (withReturns cs) = 0 := by
  by_cases head : cs.head?.any isExponentMark = true
  · cases cs with
    | nil => rfl
    | cons e cs =>
      have plain : e ≠ '\n' := by
        rintro rfl
        cases head
      rw [withReturns_cons plain]
      cases cs with
      | nil => rfl
      | cons d cs =>
        by_cases feed : d = '\n'
        · subst feed
          simp [exponentLead, isSign]
        · rw [withReturns_cons feed, exponentLead, any_head?_withReturns rfl]
          exact none
  · exact exponentLead_of_head ((any_head?_withReturns rfl cs).trans (by simpa using head))

/-- The lexeme with a return before each of its feeds. -/
def withReturns (l : Lexeme) : Lexeme := ⟨l.kind, Text.withReturns l.text⟩

/-- Whether a backslash takes a line feed with it in a string, be it one inside of a template. -/
def continuesLine (l : Lexeme) : Bool :=
  match l.kind, l.text with
  | .string, quote :: t => continued quote.utf8Size [.quoted 0 quote] t
  | .template, tick :: t => continued tick.utf8Size [.template 0 0] t
  | _, _ => false

theorem Stands.withReturns_of_notMem (stands : l.Stands behind) (none : '\n' ∉ l.text) :
    l.withReturns.Stands (Text.withReturns behind) := by
  have same : l.withReturns = l := by rw [Lexeme.withReturns, Text.withReturns_of_notMem none]
  rw [same]
  exact stands.soften (softens_withReturns _ _) fun _ => exponentLead_withReturns

/-- White space stays white space. -/
theorem Stands.withReturns_blank (blank : isBlank first = true)
    (stands : (Lexeme.mk .whitespace (first :: t)).Stands behind) :
    (Lexeme.mk .whitespace (first :: t)).withReturns.Stands (Text.withReturns behind) := by
  obtain ⟨blanks, ends⟩ := (stands_blank_iff blank).1 stands
  have blanks' : (Text.withReturns t).all isBlank = true := (all_withReturns rfl t).trans blanks
  have ends' : (Text.withReturns behind).head?.any isBlank = false :=
    (any_head?_withReturns rfl behind).trans ends
  by_cases feed : first = '\n'
  · subst feed
    show (Lexeme.mk .whitespace ('\r' :: '\n' :: Text.withReturns t)).Stands _
    exact (stands_blank_iff rfl).2 ⟨by rw [List.all_cons, blanks']; rfl, ends'⟩
  · rw [Lexeme.withReturns, withReturns_cons feed]
    exact (stands_blank_iff blank).2 ⟨blanks', ends'⟩

/-- A block comment stays one. -/
theorem Stands.withReturns_blockComment
    (stands : (Lexeme.mk .blockComment ('/' :: '*' :: t)).Stands behind) :
    (Lexeme.mk .blockComment ('/' :: '*' :: t)).withReturns.Stands (Text.withReturns behind) := by
  obtain ⟨taken, closed⟩ := stands_blockComment_iff.1 stands
  have whole := scanComment_closed [] rfl taken closed
  rw [List.append_nil] at whole
  exact stands_blockComment_iff.2 (scanComment_withReturns _ whole.1 whole.2)

/-- The text of a string that stands before another text is closed on its own. -/
theorem Stands.string_whole (quotes : isQuote first = true)
    (stands : (Lexeme.mk .string (first :: t)).Stands behind) :
    (scanString first t).1.taken = t ∧ (scanString first t).2 = true := by
  obtain ⟨taken, closed⟩ := (stands_string_iff quotes).1 stands
  have whole := scanString_closed [] (Open.ne_backslash_of_isQuote quotes) rfl taken closed
  rwa [List.append_nil] at whole

section
variable (lone : '\r' ∉ t)
include lone

/-- A string is closed unless it continues a line. -/
theorem Stands.closes_withReturns (quotes : isQuote first = true)
    (stands : (Lexeme.mk .string (first :: t)).Stands behind) (after : Text) :
    (scanString first (Text.withReturns t ++ after)).2 =
        ! (Lexeme.mk .string (first :: t)).continuesLine ∧
      ((Lexeme.mk .string (first :: t)).continuesLine = false →
        (scanString first (Text.withReturns t ++ after)).1.taken = Text.withReturns t) := by
  obtain ⟨taken, closed⟩ := stands.string_whole quotes
  exact scanString_withReturns after quotes lone taken closed _ _

/-- A template is closed unless a string in it continues a line. -/
theorem Stands.settles_withReturns (stands : (Lexeme.mk .template (backtick :: t)).Stands behind)
    (after : Text) (start : Nat) :
    Settles (Text.withReturns t) (Lexeme.mk .template (backtick :: t)).continuesLine
      (scanTemplate (start + backtick.utf8Size) [.template start 0]
        (Text.withReturns t ++ after)) := by
  obtain ⟨taken, clean⟩ := stands_template_iff.1 stands 0
  have whole := scanTemplate_closed [] backtick.utf8Size (.cons (.template 0 0 0) .nil) rfl taken
    clean
  rw [List.append_nil] at whole
  exact Lexeme.settles_withReturns after _ (.cons (.template 0 start 0) .nil) lone whole.1 whole.2

end

theorem ne_feed_of_isQuote (quotes : isQuote first = true) : first ≠ '\n' := by
  rintro rfl
  cases quotes

/-- A lexeme that continues no line stays what it is. -/
theorem Stands.withReturns (stands : l.Stands behind) (lone : '\r' ∉ l.text)
    (plain : l.continuesLine = false) : l.withReturns.Stands (Text.withReturns behind) := by
  cases stands.reach with
  | within none => exact stands.withReturns_of_notMem none
  | blank blank => exact stands.withReturns_blank blank
  | comment => exact stands.withReturns_blockComment
  | @quoted first t quotes =>
    have closes := stands.closes_withReturns (mt (List.mem_cons_of_mem _) lone) quotes
      (Text.withReturns behind)
    rw [Lexeme.withReturns, withReturns_cons (ne_feed_of_isQuote quotes)]
    exact (stands_string_iff quotes).2 ⟨closes.2 plain, by rw [closes.1, plain]; rfl⟩
  | @template t =>
    refine stands_template_iff.2 fun start => ?_
    have settles := stands.settles_withReturns (mt (List.mem_cons_of_mem _) lone)
      (Text.withReturns behind) start
    exact settles.reads plain

theorem errors_lexFrom_of_scan {offset : Nat} {cs : Text}
    (errors : (scan offset first cs).errors ≠ []) : (lexFrom offset (first :: cs)).2 ≠ [] := by
  rw [lexFrom.eq_2]
  exact fun none => errors (List.append_eq_nil_iff.1 none).1

/-- A lexeme that continues a line becomes an error. -/
theorem Stands.errors_withReturns (stands : l.Stands behind) (lone : '\r' ∉ l.text)
    (broken : l.continuesLine = true) (after : Text) (offset : Nat) :
    (lexFrom offset (l.withReturns.text ++ after)).2 ≠ [] := by
  cases stands.reach with
  | within _ other =>
    unfold continuesLine at broken
    split at broken
    · rename_i kind _
      exact absurd kind other.1
    · rename_i kind _
      exact absurd kind other.2
    · cases broken
  | blank | comment => cases broken
  | @quoted first t quotes =>
    have closes := (stands.closes_withReturns (mt (List.mem_cons_of_mem _) lone) quotes after).1
    rw [Lexeme.withReturns, withReturns_cons (ne_feed_of_isQuote quotes), List.cons_append]
    refine errors_lexFrom_of_scan ?_
    rw [scan_quote quotes]
    intro none
    rw [unfinished_eq_nil.1 none, broken] at closes
    cases closes
  | @template t =>
    refine errors_lexFrom_of_scan ?_
    rw [scan_tick]
    exact (stands.settles_withReturns (mt (List.mem_cons_of_mem _) lone) after offset).fails broken

/-- The lexemes of a text with returns put before its feeds. -/
theorem lexFrom_withReturns {ls : List Lexeme} (standing : Standing ls) (lone : '\r' ∉ join ls)
    (offset : Nat) :
    ((∀ l ∈ ls, l.continuesLine = false) →
      lexFrom offset (Text.withReturns (join ls)) = (ls.map withReturns, [])) ∧
    ((lexFrom offset (Text.withReturns (join ls))).2 = [] → ∀ l ∈ ls, l.continuesLine = false) := by
  induction ls generalizing offset with
  | nil => exact ⟨fun _ => lexFrom.eq_1 offset, by simp⟩
  | cons l ls ih =>
    obtain ⟨stands, standing⟩ := standing
    rw [join_cons] at lone ⊢
    obtain ⟨loneHere, loneLater⟩ : '\r' ∉ l.text ∧ '\r' ∉ join ls := by simpa using lone
    rw [withReturns_append]
    cases broken : l.continuesLine with
    | true =>
      have errors := stands.errors_withReturns loneHere broken (Text.withReturns (join ls)) offset
      exact ⟨fun plain => absurd (plain l List.mem_cons_self) (by simp [broken]),
        fun clean => absurd clean errors⟩
    | false =>
      have first := lexFrom_of_stands (stands.withReturns loneHere broken) offset
      have later := ih standing loneLater (offset + l.withReturns.size)
      rw [show Text.withReturns l.text = l.withReturns.text from rfl, first]
      constructor
      · intro plain
        rw [later.1 fun l mem => plain l (List.mem_cons_of_mem _ mem)]
        rfl
      · intro clean
        exact List.forall_mem_cons.2 ⟨broken, later.2 clean⟩

end Lexeme

/-- A text without errors has none with returns put before its feeds either, unless a string in it
continues a line, and its lexemes are the same but for the returns. -/
theorem lex_withReturns {text : Text} (lone : '\r' ∉ text) (clean : (lex text).errors = []) :
    ((∀ l ∈ (lex text).lexemes, l.continuesLine = false) →
      lex text.withReturns = ⟨(lex text).lexemes.map Lexeme.withReturns, []⟩) ∧
    ((lex text.withReturns).errors = [] → ∀ l ∈ (lex text).lexemes, l.continuesLine = false) := by
  have whole := Lexeme.lexFrom_withReturns (standing_lex clean) (by rwa [join_lex]) 0
  rw [join_lex] at whole
  exact ⟨fun plain => by simp only [lex, whole.1 plain], whole.2⟩

end ScriptLint
