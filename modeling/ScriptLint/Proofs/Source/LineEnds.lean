import ScriptLint.Proofs.Source.Stream
import ScriptLint.Proofs.Syntax.Breaks
import ScriptLint.Proofs.Syntax.Relexing.Returns

/-!
# Line ends of two characters

A text that parses is given a carriage return before each of its line feeds. A return and a feed end
one line together, so every token stays on its line (`startLines_withReturns`), and no line break
between two tokens comes or goes. So the text parses as it did (`parse_withReturns`), unless a
backslash takes a line feed with it in a string: now it takes the return, and the feed ends the
string.
-/

namespace ScriptLint

open ScriptLint.Tree (tagsOf bareOf lexemesOf)

namespace Lexeme

/-- The lexeme with returns before its feeds; a word has none. -/
def respelled (l : Lexeme) : Lexeme := if l.kind.namesProperty then l else l.withReturns

theorem respells_respelled : Respells respelled where
  kind l := by
    unfold respelled
    split <;> rfl
  word l word := if_pos word

theorem Stands.respelled {l : Lexeme} {behind : Text} (stands : l.Stands behind) :
    l.respelled = l.withReturns := by
  unfold Lexeme.respelled
  split
  · rename_i word
    rw [Lexeme.withReturns, Text.withReturns_of_notMem (stands.feed_notMem_of_word word)]
  · rfl

theorem hasLineBreak_withReturns (l : Lexeme) : l.withReturns.hasLineBreak = l.hasLineBreak :=
  Text.any_isLineBreak_withReturns l.text

/-- The same tokens have the same line breaks between them. -/
theorem along_withReturns {ls : List Lexeme} {marks : List Bool} {broken : Bool}
    (standing : Standing ls) (length : marks.length = (significant ls).length) :
    Along respelled marks (items broken ls) (items broken (ls.map withReturns)) := by
  induction ls generalizing marks broken with
  | nil =>
    obtain rfl := List.eq_nil_of_length_eq_zero length
    exact .nil
  | cons l ls ih =>
    rw [List.map_cons, items, items]
    cases trivia : l.isTrivia with
    | true =>
      have trivia' : l.withReturns.isTrivia = true := trivia
      rw [if_pos rfl, if_pos trivia', hasLineBreak_withReturns]
      exact ih standing.2 (by simpa [significant, trivia] using length)
    | false =>
      have plain : ¬ l.withReturns.isTrivia = true := by
        rw [show l.withReturns.isTrivia = l.isTrivia from rfl, trivia]
        exact Bool.false_ne_true
      rw [if_neg Bool.false_ne_true, if_neg plain, ← standing.1.respelled]
      cases marks with
      | nil => simp [significant, trivia] at length
      | cons mark marks =>
        exact .cons (.inl rfl) (ih standing.2 (by simpa [significant, trivia] using length))

end Lexeme

namespace TokenStream

/-- The kinds of the significant tokens. -/
def kinds (ts : List Token) : List SyntaxKind := (significant ts).map Token.kind

/-- The lines of a text on which the significant tokens start. -/
def startLines (text : Text) (ts : List Token) : List Nat :=
  (significant ts).map fun t => ((LineTable.ofText text).position text t.start).line

theorem kinds_tokensFrom (start : Nat) (ls : List Lexeme) :
    kinds (Lexeme.tokensFrom start ls) = (Lexeme.significant ls).map Lexeme.kind := by
  induction ls generalizing start with
  | nil => rfl
  | cons l ls ih =>
    have same : (Token.mk l.kind l.text start).isTrivia = l.isTrivia := rfl
    have ih := ih (start + Text.size l.text)
    unfold kinds significant Lexeme.significant at ih ⊢
    cases trivia : l.isTrivia <;> simp [Lexeme.tokensFrom, same, trivia, ih]

theorem kinds_ofTree (t : Tree) :
    kinds (ofTree t) = (lexemesOf (Tree.bare id t)).map Lexeme.kind := by
  rw [ofTree, kinds_tokensFrom, Tree.lexemesOf_bare, List.map_id]
  rfl

theorem startLines_cons (text : Text) (t : Token) (ts : List Token) : startLines text (t :: ts) =
    if t.isTrivia then startLines text ts
    else ((LineTable.ofText text).position text t.start).line :: startLines text ts := by
  cases trivia : t.isTrivia <;> simp [startLines, significant, trivia]

/-- Lines do not depend on what words are taken for. -/
theorem startLines_ofTree (text : Text) :
    startLines text (ofTree (parse text).tree) = startLines text (ofText text) := by
  have plain (ts : List Token) : startLines text (ts.map Token.plain) = startLines text ts := by
    rw [startLines, significant_map_plain, List.map_map]
    rfl
  rw [← plain, map_plain_ofTree, plain]

/-- Every token stays on its line. -/
theorem startLines_withReturns {text : Text} (lone : '\r' ∉ text) (read : List Lexeme)
    {ls : List Lexeme} (whole : Lexeme.join (read ++ ls) = text) :
    startLines text.withReturns
        (Lexeme.tokensFrom (Text.size (Lexeme.join read).withReturns) (ls.map Lexeme.withReturns)) =
      startLines text (Lexeme.tokensFrom (Text.size (Lexeme.join read)) ls) := by
  induction ls generalizing read with
  | nil => rfl
  | cons l ls ih =>
    have here := @LineTable.line_withReturns (Lexeme.join read) (Lexeme.join (l :: ls))
      (fun mem => lone (by rw [← whole, Lexeme.join_append]; exact List.mem_append_left _ mem))
    rw [← Lexeme.join_append, whole] at here
    have one : Lexeme.join [l] = l.text := List.append_nil _
    have later := ih (read ++ [l]) (by simpa using whole)
    rw [Lexeme.join_append, one, Text.withReturns_append, Text.size_append,
      Text.size_append] at later
    rw [List.map_cons, Lexeme.tokensFrom, Lexeme.tokensFrom, startLines_cons, startLines_cons]
    exact congrArg₂ (fun line lines => if l.isTrivia then lines else line :: lines) here later

theorem startLines_ofText_withReturns {text : Text} (lone : '\r' ∉ text)
    (lexemes : (lex text.withReturns).lexemes = (lex text).lexemes.map Lexeme.withReturns) :
    startLines text.withReturns (ofText text.withReturns) = startLines text (ofText text) := by
  rw [ofText, lexemes]
  exact startLines_withReturns lone [] (join_lex text)

/-- Whether the significant tokens of two streams, each of its text, are of the same kinds and start
on the same lines. -/
structure SameLayout (text text' : Text) (ts ts' : List Token) : Prop where
  kinds : kinds ts' = kinds ts
  startLines : startLines text' ts' = startLines text ts

end TokenStream

open TokenStream (SameLayout ofText ofTree)
open Lexeme (backtick)

variable {text : Text}

/-- With the same lexemes but for returns, a text parses into the same tree but for returns. -/
theorem bare_parse_withReturns (parses : (parse text).errors = [])
    (lexed : lex text.withReturns = ⟨(lex text).lexemes.map Lexeme.withReturns, []⟩) :
    (parse text.withReturns).errors = [] ∧
      Tree.bare id (parse text.withReturns).tree = Tree.bare Lexeme.respelled (parse text).tree := by
  obtain ⟨clean, errors⟩ := errors_parse.1 parses
  have along : Lexeme.Along Lexeme.respelled (tagsOf (programBody (lex text).lexemes).out)
      (Lexeme.items false (lex text).lexemes)
      (Lexeme.items false (lex text.withReturns).lexemes) := by
    rw [lexed]
    exact Lexeme.along_withReturns (standing_lex clean)
      (length_tagsOf_programBody (Lexeme.kind_of_mem_lexFrom 0 text))
  obtain ⟨clean', bare⟩ := echoes_programBody Lexeme.respells_respelled errors along
  exact ⟨errors_parse.2 ⟨by rw [lexed], clean'⟩, congrArg (fun ts => [Tree.node .program ts]) bare⟩

/-- With the same lexemes but for returns, a text has the same layout. -/
theorem sameLayout_withReturns (lone : '\r' ∉ text) (parses : (parse text).errors = [])
    (lexed : lex text.withReturns = ⟨(lex text).lexemes.map Lexeme.withReturns, []⟩) :
    SameLayout text text.withReturns (ofText text) (ofText text.withReturns) ∧
      SameLayout text text.withReturns (ofTree (parse text).tree)
        (ofTree (parse text.withReturns).tree) := by
  have lexemes : (lex text.withReturns).lexemes = (lex text).lexemes.map Lexeme.withReturns := by
    rw [lexed]
  have lines := TokenStream.startLines_ofText_withReturns lone lexemes
  refine ⟨⟨?_, lines⟩, ⟨?_, ?_⟩⟩
  · rw [ofText, ofText, TokenStream.kinds_tokensFrom, TokenStream.kinds_tokensFrom, lexemes,
      Lexeme.significant, List.filter_map, List.map_map]
    rfl
  · have kinds (ls : List Lexeme) :
        (ls.map Lexeme.respelled).map Lexeme.kind = ls.map Lexeme.kind := by
      rw [List.map_map]
      exact List.map_congr_left fun l _ => Lexeme.respells_respelled.kind l
    rw [TokenStream.kinds_ofTree, TokenStream.kinds_ofTree, (bare_parse_withReturns parses lexed).2,
      Tree.lexemesOf_bare, Tree.lexemesOf_bare, kinds, List.map_id]
  · rw [TokenStream.startLines_ofTree, TokenStream.startLines_ofTree, lines]

/-- A text that parses parses with returns put before its feeds if and only if no string in it, be it
inside of a template, continues a line. Then its significant tokens are of the same kinds and start on
the same lines, both in the text and in its tree. -/
theorem parse_withReturns (lone : '\r' ∉ text) (parses : (parse text).errors = []) :
    ((parse text.withReturns).errors = [] ↔
        ∀ l ∈ (lex text).lexemes, l.continuesLine = false) ∧
      ((parse text.withReturns).errors = [] →
        SameLayout text text.withReturns (ofText text) (ofText text.withReturns) ∧
        SameLayout text text.withReturns (ofTree (parse text).tree)
          (ofTree (parse text.withReturns).tree)) := by
  obtain ⟨reads, plain⟩ := lex_withReturns lone (errors_parse.1 parses).1
  refine ⟨⟨fun parses' => ?_, fun plain => ?_⟩, fun parses' => ?_⟩
  · exact plain (errors_parse.1 parses').1
  · exact (bare_parse_withReturns parses (reads plain)).1
  · exact sameLayout_withReturns lone parses (reads (plain (errors_parse.1 parses').1))

/-- Lines that end in white space, in a comment and, behind a backslash, in a template. -/
def brokenText : Text :=
  ['a', '\n', '/', '*', '\n', '*', '/', 'b', '=', backtick, '\\', '\n', backtick, '\n']

theorem parse_withReturns_brokenText :
    '\r' ∉ brokenText ∧ (parse brokenText).errors = [] ∧
      (parse brokenText.withReturns).errors = [] ∧
      SameLayout brokenText brokenText.withReturns (ofTree (parse brokenText).tree)
        (ofTree (parse brokenText.withReturns).tree) := by
  have lone : '\r' ∉ brokenText := by decide
  have parses : (parse brokenText).errors = [] := by decide +kernel
  have both := parse_withReturns lone parses
  have parses' := both.1.2 (by decide +kernel)
  exact ⟨lone, parses, parses', (both.2 parses').2⟩

/-- A string that continues a line. -/
def continuedText : Text := ['"', 'a', '\\', '\n', 'b', '"', ';']

/-- The text parses, and does not once it has the other line end. -/
theorem errors_parse_continuedText : '\r' ∉ continuedText ∧ (parse continuedText).errors = [] ∧
    (parse continuedText.withReturns).errors ≠ [] := by
  refine ⟨by decide, by decide +kernel, fun parses => ?_⟩
  have unread : (lex continuedText.withReturns).errors ≠ [] := by decide +kernel
  exact unread (errors_parse.1 parses).1

end ScriptLint
