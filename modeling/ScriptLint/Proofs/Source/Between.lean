import ScriptLint.Proofs.Runs
import ScriptLint.Proofs.Source.Neighbours

/-!
# Trivia between two tokens

The search for the trivia between two tokens ends at the second one, and also at a significant token
between them. So it finds the trivia in front of the first significant token there (`trivia_found`):
all trivia between two tokens that are neighbours, but not all if others lie between them.
-/

namespace ScriptLint

open TokenStream

variable {ts us : List Token} {first second : Token}

namespace TokenStream

/-- The tokens that start where a first one ends or behind that, and before a second one. -/
def between (first second : Token) (ts : List Token) : List Token :=
  ts.filter fun t => first.stop ≤ t.start && t.start < second.start

theorem between_eq (first second : Token) (ts : List Token) :
    between first second ts = (startingFrom first.stop ts).filter fun t => t.start < second.start := by
  rw [startingFrom, List.filter_filter]
  exact List.filter_congr fun t _ => Bool.and_comm ..

/-- In a stream, the tokens that start before an offset come first. -/
theorem filter_start_lt (ordered : Ordered ts) (offset : Nat) :
    ts.filter (fun t => t.start < offset) = ts.takeWhile fun t => t.start < offset := by
  symm
  apply takeWhile_eq_filter_iff.2
  rintro earlier f later rfl beyond t mem
  have apart := ordered.behind t mem
  have filled := ordered.filled f (by simp)
  rw [decide_eq_false_iff_not] at beyond ⊢
  omega

/-- What is trivia at the start of a stream does not depend on what its words are taken for. -/
theorem takeWhile_isTrivia_congr (same : ts.map Token.plain = us.map Token.plain) :
    ts.takeWhile Token.isTrivia = us.takeWhile Token.isTrivia := by
  have kept (ts : List Token) :
      (ts.map Token.plain).takeWhile Token.isTrivia = ts.takeWhile Token.isTrivia := by
    have plain : Token.isTrivia ∘ Token.plain = Token.isTrivia := funext Token.isTrivia_plain
    rw [List.takeWhile_map, plain]
    exact map_plain_of_trivia fun t => List.mem_takeWhile_imp
  rw [← kept ts, same, kept us]

theorem between_congr (same : ts.map Token.plain = us.map Token.plain) (first second : Token) :
    (between first second ts).map Token.plain = (between first second us).map Token.plain := by
  have kept (ts : List Token) :
      between first second (ts.map Token.plain) = (between first second ts).map Token.plain :=
    List.filter_map ..
  rw [← kept ts, same, kept us]

end TokenStream

namespace Place

variable {a b : Place}

/-- The search for trivia behind a token of a stream finds those in front of the first significant
token, if this comes before the second one. -/
theorem IsIn.trivia_between (ordered : Ordered ts) (isIn : a.IsIn ts) (b : Place) :
    triviaBetween a b = (between a.token b.token ts).takeWhile Token.isTrivia := by
  obtain ⟨earlier, later, rfl, before, after⟩ := isIn
  have rest : Ordered later := by
    rw [List.append_cons] at ordered
    exact ordered.right
  rw [triviaBetween, after, triviaRun_tokens, between_eq, startingFrom_stop ordered,
    filter_start_lt rest, List.takeWhile_takeWhile, List.takeWhile_takeWhile]
  simp only [and_comm]

theorem space_between_iff {found : List Token} (same : triviaBetween a b = found) :
    spaceBetween a b = true ↔ ∃ t ∈ found, t.kind = .whitespace := by
  rw [spaceBetween, same, List.any_eq_true]
  exact exists_congr fun t => and_congr_right fun _ => beq_iff_eq

/-- What is found between a token of a text without errors and another one: the trivia in front of the
first significant token there, in order. These are all the trivia between the two exactly if none of
them comes behind a significant token. White space that lies between the two is missed exactly if it
comes only behind a significant token. -/
theorem trivia_found {text : Text} (clean : (parse text).errors = []) {a : Place}
    (among : a ∈ (Source.ofText text).places) (b : Place) :
    let between := between a.token b.token (TokenStream.ofText text)
    triviaBetween a b = between.takeWhile Token.isTrivia ∧
      (triviaBetween a b = between.filter Token.isTrivia ↔
        ∀ earlier f later, between = earlier ++ f :: later → f.isTrivia = false →
          ∀ t ∈ later, t.isTrivia = false) ∧
      (spaceBetween a b = true ↔
        ∃ t ∈ between.takeWhile Token.isTrivia, t.kind = .whitespace) ∧
      ((∃ t ∈ between, t.kind = .whitespace) ∧ spaceBetween a b = false ↔
        ∃ earlier f later, between = earlier ++ f :: later ∧ f.isTrivia = false ∧
          (∀ t ∈ earlier, t.kind ≠ .whitespace) ∧ ∃ t ∈ later, t.kind = .whitespace) := by
  intro between
  have isIn := (isIn_of_places clean).2 a among
  have found : triviaBetween a b = between.takeWhile Token.isTrivia :=
    (isIn.trivia_between (ordered_ofTree text) b).trans
      (takeWhile_isTrivia_congr (between_congr (map_plain_ofTree text) a.token b.token))
  have spaced := space_between_iff found
  refine ⟨found, found ▸ takeWhile_eq_filter_iff, spaced, ?_⟩
  rw [← Bool.not_eq_true, spaced]
  have hidden := hidden_iff (p := Token.isTrivia) (q := fun t => t.kind == .whitespace) (l := between)
    fun t white => by rw [Token.isTrivia, beq_iff_eq.1 white]; rfl
  simpa using hidden

/-- Two names with a comma and a blank between them. -/
def commaText : Text := ['a', ',', ' ', 'b', ';']

theorem trivia_found_commaText : (parse commaText).errors = [] ∧
    ∃ a ∈ (Source.ofText commaText).places, ∃ b ∈ (Source.ofText commaText).places,
      a.token.text = ['a'] ∧ b.token.text = ['b'] ∧
      triviaBetween a b =
        (between a.token b.token (TokenStream.ofText commaText)).takeWhile Token.isTrivia := by
  have clean : (parse commaText).errors = [] := by decide +kernel
  obtain ⟨a, first, b, second, texts⟩ : ∃ a ∈ (Source.ofText commaText).places,
      ∃ b ∈ (Source.ofText commaText).places, a.token.text = ['a'] ∧ b.token.text = ['b'] := by
    decide +kernel
  exact ⟨clean, a, first, b, second, texts.1, texts.2, (trivia_found clean first b).1⟩

/-- The blank between the names lies between them in the stream, and is not found. -/
theorem trivia_missed_commaText : (parse commaText).errors = [] ∧
    ∃ a ∈ (Source.ofText commaText).tokens, ∃ b ∈ (Source.ofText commaText).tokens,
      a.token.stop ≤ b.token.start ∧ triviaBetween a b = [] ∧ spaceBetween a b = false ∧
      (between a.token b.token (TokenStream.ofText commaText)).filter Token.isTrivia =
        [⟨.whitespace, [' '], 2⟩] := by
  decide +kernel

end Place

end ScriptLint
