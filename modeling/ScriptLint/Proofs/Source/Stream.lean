import ScriptLint.Proofs.Source.Tokens
import ScriptLint.Proofs.Syntax.Plain

/-!
# Token streams

The lexemes of a text are a stream of tokens, in order and apart (`Ordered`). What lies in a span and
around a token can be asked of the stream alone: `firstIn?` and `lastIn?`, `previous?` and `following?`,
and the comments between neighbours. None of this depends on what the words of the stream are taken
for, and in this the stream of a text and that of its tree agree (`map_plain_ofTree`).
-/

namespace ScriptLint

open Lexeme (tokensFrom join)
open ScriptLint.Tree (lexemesOf)

namespace Token

/-- The token with the kind of a name if it is a word. -/
def plain (t : Token) : Token := ⟨(Lexeme.mk t.kind t.text).plain.kind, t.text, t.start⟩

@[simp] theorem start_plain (t : Token) : t.plain.start = t.start := rfl

@[simp] theorem stop_plain (t : Token) : t.plain.stop = t.stop := rfl

@[simp] theorem isTrivia_plain (t : Token) : t.plain.isTrivia = t.isTrivia :=
  Lexeme.isTrivia_plain ⟨t.kind, t.text⟩

@[simp] theorem isComment_plain (t : Token) : t.plain.isComment = t.isComment :=
  Lexeme.isComment_plain ⟨t.kind, t.text⟩

theorem isTrivia_of_isComment {t : Token} (comment : t.isComment = true) : t.isTrivia = true := by
  unfold isComment at comment
  unfold isTrivia
  cases kind : t.kind <;> simp_all [SyntaxKind.isComment] <;> rfl

/-- Trivia are no words. -/
theorem plain_of_isTrivia {t : Token} (trivia : t.isTrivia = true) : t.plain = t := by
  have other : t.kind.namesProperty = false := by
    unfold isTrivia at trivia
    cases kind : t.kind <;> simp_all [SyntaxKind.isTrivia] <;> rfl
  rw [plain, Lexeme.plain_of_not_word (l := ⟨t.kind, t.text⟩) other]

end Token

namespace TokenStream

def significant (ts : List Token) : List Token := ts.filter fun t => ! t.isTrivia

theorem significant_append (ts us : List Token) :
    significant (ts ++ us) = significant ts ++ significant us :=
  List.filter_append ts us

/-- The tokens inside of a span. -/
def inside (span : Span) (ts : List Token) : List Token :=
  ts.filter fun t => span.start ≤ t.start && t.stop ≤ span.stop

theorem significant_inside (span : Span) (ts : List Token) :
    significant (inside span ts) = inside span (significant ts) :=
  List.filter_comm ..

/-- The tokens that end at an offset or before it. -/
def endingBy (offset : Nat) (ts : List Token) : List Token := ts.filter fun t => t.stop ≤ offset

/-- The tokens that start at an offset or behind it. -/
def startingFrom (offset : Nat) (ts : List Token) : List Token :=
  ts.filter fun t => offset ≤ t.start

/-- The first significant token in a span. -/
def firstIn? (span : Span) (ts : List Token) : Option Token := (significant (inside span ts)).head?

/-- The last significant token in a span. -/
def lastIn? (span : Span) (ts : List Token) : Option Token :=
  (significant (inside span ts)).getLast?

/-- The last significant token before a token. -/
def previous? (t : Token) (ts : List Token) : Option Token :=
  (significant (endingBy t.start ts)).getLast?

/-- The first significant token behind a token. -/
def following? (t : Token) (ts : List Token) : Option Token :=
  (significant (startingFrom t.stop ts)).head?

/-- The comments between a token and the significant one before it. -/
def commentsBefore (t : Token) (ts : List Token) : List Token :=
  (endingBy t.start ts).filter fun c => c.isComment && (previous? t ts).all fun p => p.stop ≤ c.start

/-- The comments between a token and the significant one behind it. -/
def commentsBehind (t : Token) (ts : List Token) : List Token :=
  (startingFrom t.stop ts).filter fun c => c.isComment && (following? t ts).all fun f => c.stop ≤ f.start

/-- Whether tokens come one behind another, none of them empty. -/
structure Ordered (ts : List Token) : Prop where
  apart : ts.Pairwise fun t u => t.stop ≤ u.start
  filled : ∀ t ∈ ts, t.start < t.stop

section
variable {earlier later : List Token} {t : Token}

theorem Ordered.before (ordered : Ordered (earlier ++ t :: later)) : ∀ u ∈ earlier, u.stop ≤ t.start :=
  fun u mem => (List.pairwise_append.1 ordered.apart).2.2 u mem t List.mem_cons_self

theorem Ordered.behind (ordered : Ordered (earlier ++ t :: later)) : ∀ u ∈ later, t.stop ≤ u.start :=
  (List.pairwise_cons.1 (List.pairwise_append.1 ordered.apart).2.1).1

theorem Ordered.left (ordered : Ordered (earlier ++ later)) : Ordered earlier :=
  ⟨(List.pairwise_append.1 ordered.apart).1,
    fun t mem => ordered.filled t (List.mem_append_left later mem)⟩

theorem Ordered.right (ordered : Ordered (earlier ++ later)) : Ordered later :=
  ⟨(List.pairwise_append.1 ordered.apart).2.1,
    fun t mem => ordered.filled t (List.mem_append_right earlier mem)⟩

/-- What ends before a token are the tokens before it. -/
theorem endingBy_start (ordered : Ordered (earlier ++ t :: later)) :
    endingBy t.start (earlier ++ t :: later) = earlier := by
  have here := ordered.filled t (by simp)
  have first : earlier.filter (fun u => decide (u.stop ≤ t.start)) = earlier :=
    List.filter_eq_self.2 fun u mem => decide_eq_true (ordered.before u mem)
  have behind : (t :: later).filter (fun u => decide (u.stop ≤ t.start)) = [] := by
    refine List.filter_eq_nil_iff.2 fun u mem => ?_
    have filled := ordered.filled u (List.mem_append_right earlier mem)
    rcases List.mem_cons.1 mem with rfl | among
    · simpa using here
    · have := ordered.behind u among
      simp only [decide_eq_true_eq]
      omega
  rw [endingBy, List.filter_append, first, behind, List.append_nil]

/-- What starts behind a token are the tokens behind it. -/
theorem startingFrom_stop (ordered : Ordered (earlier ++ t :: later)) :
    startingFrom t.stop (earlier ++ t :: later) = later := by
  have here := ordered.filled t (by simp)
  have first : earlier.filter (fun u => decide (t.stop ≤ u.start)) = [] := by
    refine List.filter_eq_nil_iff.2 fun u mem => ?_
    have filled := ordered.filled u (List.mem_append_left _ mem)
    have := ordered.before u mem
    simp only [decide_eq_true_eq]
    omega
  have behind : (t :: later).filter (fun u => decide (t.stop ≤ u.start)) = later := by
    rw [List.filter_cons_of_neg (by simpa using here)]
    exact List.filter_eq_self.2 fun u mem => decide_eq_true (ordered.behind u mem)
  rw [startingFrom, List.filter_append, first, behind, List.nil_append]

end

section
variable {ls more : List Lexeme} {start : Nat}

/-- Tokens lie in the stretch of text that their lexemes make up. -/
theorem bounds_of_mem_tokensFrom {t : Token} (mem : t ∈ tokensFrom start ls) :
    start ≤ t.start ∧ t.stop ≤ start + Text.size (join ls) := by
  induction ls generalizing start with
  | nil => cases mem
  | cons l ls ih =>
    rw [Lexeme.join_cons, Text.size_append]
    rcases List.mem_cons.1 mem with rfl | later
    · exact ⟨Nat.le_refl _, by simp only [Token.stop]; omega⟩
    · have := ih later
      omega

theorem ordered_tokensFrom (filled : ∀ l ∈ ls, l.text ≠ []) : Ordered (tokensFrom start ls) := by
  induction ls generalizing start with
  | nil => exact ⟨.nil, by simp [tokensFrom]⟩
  | cons l ls ih =>
    obtain ⟨apart, rest⟩ : Ordered (tokensFrom (start + Text.size l.text) ls) :=
      ih fun l mem => filled l (List.mem_cons_of_mem _ mem)
    refine ⟨List.pairwise_cons.2 ⟨fun t mem => (bounds_of_mem_tokensFrom mem).1, apart⟩, ?_⟩
    intro t mem
    rcases List.mem_cons.1 mem with rfl | later
    · have := Text.size_pos (filled l List.mem_cons_self)
      simp only [Token.stop]
      omega
    · exact rest t later

/-- The tokens in the stretch that lexemes between others make up. -/
theorem inside_tokensFrom {read rest : List Lexeme} {span : Span}
    (ordered : Ordered (tokensFrom start (read ++ ls ++ rest)))
    (starts : span.start = start + Text.size (join read))
    (stops : span.stop = span.start + Text.size (join ls)) :
    inside span (tokensFrom start (read ++ ls ++ rest)) = tokensFrom span.start ls := by
  have size : start + Text.size (join (read ++ ls)) = span.stop := by
    rw [Lexeme.size_join_append]
    omega
  rw [Lexeme.tokensFrom_append, Lexeme.tokensFrom_append, ← starts, size] at ordered ⊢
  have before : inside span (tokensFrom start read) = [] := by
    refine List.filter_eq_nil_iff.2 fun t mem => ?_
    have bounds := bounds_of_mem_tokensFrom mem
    have filled := ordered.left.left.filled t mem
    simp only [Bool.and_eq_true, decide_eq_true_eq]
    omega
  have here : inside span (tokensFrom span.start ls) = tokensFrom span.start ls := by
    refine List.filter_eq_self.2 fun t mem => ?_
    have bounds := bounds_of_mem_tokensFrom mem
    simp only [Bool.and_eq_true, decide_eq_true_eq]
    omega
  have behind : inside span (tokensFrom span.stop rest) = [] := by
    refine List.filter_eq_nil_iff.2 fun t mem => ?_
    have bounds := bounds_of_mem_tokensFrom mem
    have filled := ordered.right.filled t mem
    simp only [Bool.and_eq_true, decide_eq_true_eq]
    omega
  unfold inside at before here behind ⊢
  rw [List.filter_append, List.filter_append, before, here, behind, List.nil_append, List.append_nil]

end

section
variable {ts : List Token} {t : Token} {span : Span}

theorem significant_map_plain (ts : List Token) :
    significant (ts.map Token.plain) = (significant ts).map Token.plain := by
  simp [significant, List.filter_map, Function.comp_def]

theorem inside_map_plain (span : Span) (ts : List Token) :
    inside span (ts.map Token.plain) = (inside span ts).map Token.plain := List.filter_map ..

theorem firstIn?_map_plain (span : Span) (ts : List Token) :
    firstIn? span (ts.map Token.plain) = (firstIn? span ts).map Token.plain := by
  rw [firstIn?, inside_map_plain, significant_map_plain, List.head?_map, firstIn?]

theorem lastIn?_map_plain (span : Span) (ts : List Token) :
    lastIn? span (ts.map Token.plain) = (lastIn? span ts).map Token.plain := by
  rw [lastIn?, inside_map_plain, significant_map_plain, List.getLast?_map, lastIn?]

theorem endingBy_map_plain (offset : Nat) (ts : List Token) :
    endingBy offset (ts.map Token.plain) = (endingBy offset ts).map Token.plain := List.filter_map ..

theorem startingFrom_map_plain (offset : Nat) (ts : List Token) :
    startingFrom offset (ts.map Token.plain) = (startingFrom offset ts).map Token.plain :=
  List.filter_map ..

theorem previous?_map_plain (t : Token) (ts : List Token) :
    previous? t (ts.map Token.plain) = (previous? t ts).map Token.plain := by
  rw [previous?, endingBy_map_plain, significant_map_plain, List.getLast?_map, previous?]

theorem following?_map_plain (t : Token) (ts : List Token) :
    following? t (ts.map Token.plain) = (following? t ts).map Token.plain := by
  rw [following?, startingFrom_map_plain, significant_map_plain, List.head?_map, following?]

theorem map_plain_of_trivia (trivia : ∀ t ∈ ts, t.isTrivia = true) : ts.map Token.plain = ts :=
  (List.map_congr_left fun t mem => Token.plain_of_isTrivia (trivia t mem)).trans (List.map_id ts)

theorem commentsBefore_map_plain (t : Token) (ts : List Token) :
    commentsBefore t (ts.map Token.plain) = commentsBefore t ts := by
  have trivia : ∀ c ∈ commentsBefore t ts, c.isTrivia = true := by
    intro c mem
    exact Token.isTrivia_of_isComment (Bool.and_eq_true_iff.1 (List.mem_filter.1 mem).2).1
  rw [← map_plain_of_trivia trivia, commentsBefore, endingBy_map_plain, previous?_map_plain,
    List.filter_map, commentsBefore]
  simp only [Option.all_map, Function.comp_def, Token.isComment_plain]
  rfl

theorem commentsBehind_map_plain (t : Token) (ts : List Token) :
    commentsBehind t (ts.map Token.plain) = commentsBehind t ts := by
  have trivia : ∀ c ∈ commentsBehind t ts, c.isTrivia = true := by
    intro c mem
    exact Token.isTrivia_of_isComment (Bool.and_eq_true_iff.1 (List.mem_filter.1 mem).2).1
  rw [← map_plain_of_trivia trivia, commentsBehind, startingFrom_map_plain,
    following?_map_plain, List.filter_map, commentsBehind]
  simp only [Option.all_map, Function.comp_def, Token.isComment_plain]
  rfl

end

section
variable {ts us : List Token} (same : ts.map Token.plain = us.map Token.plain) {t u : Token}
include same

theorem firstIn?_congr (span : Span) :
    (firstIn? span ts).map Token.plain = (firstIn? span us).map Token.plain := by
  rw [← firstIn?_map_plain, same, firstIn?_map_plain]

theorem lastIn?_congr (span : Span) :
    (lastIn? span ts).map Token.plain = (lastIn? span us).map Token.plain := by
  rw [← lastIn?_map_plain, same, lastIn?_map_plain]

theorem previous?_congr (at_ : t.plain = u.plain) :
    (previous? t ts).map Token.plain = (previous? u us).map Token.plain := by
  rw [← previous?_map_plain, ← previous?_map_plain, same]
  show previous? t.plain _ = previous? u.plain _
  rw [at_]

theorem following?_congr (at_ : t.plain = u.plain) :
    (following? t ts).map Token.plain = (following? u us).map Token.plain := by
  rw [← following?_map_plain, ← following?_map_plain, same]
  show following? t.plain _ = following? u.plain _
  rw [at_]

theorem commentsBefore_congr (at_ : t.plain = u.plain) :
    commentsBefore t ts = commentsBefore u us := by
  rw [← commentsBefore_map_plain, ← commentsBefore_map_plain u, same]
  show commentsBefore t.plain _ = commentsBefore u.plain _
  rw [at_]

theorem commentsBehind_congr (at_ : t.plain = u.plain) :
    commentsBehind t ts = commentsBehind u us := by
  rw [← commentsBehind_map_plain, ← commentsBehind_map_plain u, same]
  show commentsBehind t.plain _ = commentsBehind u.plain _
  rw [at_]

end

theorem tokensFrom_map_plain (start : Nat) (ls : List Lexeme) :
    tokensFrom start (ls.map Lexeme.plain) = (tokensFrom start ls).map Token.plain := by
  induction ls generalizing start with
  | nil => rfl
  | cons l ls ih =>
    rw [List.map_cons, tokensFrom, tokensFrom, List.map_cons, Lexeme.text_plain, ih]
    rfl

theorem ordered_map_plain {ts : List Token} : Ordered (ts.map Token.plain) ↔ Ordered ts := by
  constructor
  · rintro ⟨apart, filled⟩
    exact ⟨List.pairwise_map.1 apart, fun t mem => filled t.plain (List.mem_map_of_mem mem)⟩
  · rintro ⟨apart, filled⟩
    refine ⟨List.pairwise_map.2 apart, fun t mem => ?_⟩
    obtain ⟨u, among, rfl⟩ := List.mem_map.1 mem
    exact filled u among

/-- The stream of a text. -/
def ofText (text : Text) : List Token := tokensFrom 0 (lex text).lexemes

/-- The stream of a tree. -/
def ofTree (t : Tree) : List Token := tokensFrom 0 t.lexemes

theorem ordered_ofText (text : Text) : Ordered (ofText text) :=
  ordered_tokensFrom (Lexeme.text_ne_nil_of_mem_lexFrom 0 text)

/-- The tokens of a tree are those of its text, up to which words its words are. -/
theorem map_plain_ofTree (text : Text) :
    (ofTree (parse text).tree).map Token.plain = (ofText text).map Token.plain := by
  rw [ofTree, ofText, ← tokensFrom_map_plain, ← tokensFrom_map_plain, ← map_plain_parse]
  rfl

theorem ordered_ofTree (text : Text) : Ordered (ofTree (parse text).tree) := by
  rw [← ordered_map_plain, map_plain_ofTree, ordered_map_plain]
  exact ordered_ofText text

end TokenStream

end ScriptLint
