import ScriptLint.Proofs.Source.Nodes
import ScriptLint.Proofs.Syntax.Derivation.Statement
import ScriptLint.Proofs.Syntax.Opening.Statement

/-!
# Node boundaries

No node but the program starts with trivia. If a text has no errors, none of them is empty either or
ends with trivia: a node that is derived is made of something, and what it is made of ends with a
token or a node that does (`sites_bounded`).
-/

namespace ScriptLint

open Lexeme (Fronted tokensFrom join)
open ScriptLint.Tree (lexemesOf heads Closed)

theorem SyntaxKind.nil_notMem_content {k : SyntaxKind} (inner : k.isInner = true) :
    [] ∉ k.content.matches' := by
  have filled : k.content.matchEpsilon = false := by
    cases k <;> first | rfl | cases inner
  rw [← RegularExpression.rmatch_iff_matches', RegularExpression.rmatch, filled]
  exact Bool.false_ne_true

namespace Tree

theorem Opened.of_mem_parts {t u : Tree} (opened : t.Opened) (part : u ∈ t.parts) : u.Opened := by
  induction opened with
  | token =>
    obtain rfl := List.mem_singleton.1 part
    exact .token
  | node fronted opened ih =>
    rcases List.mem_cons.1 part with rfl | below
    · exact .node fronted opened
    · obtain ⟨t, child, part⟩ := mem_partsOf.1 below
      exact ih t child part

/-- Nodes that are derived are made of something. -/
theorem Derived.children_ne_nil {kind : SyntaxKind} {children : List Tree}
    (derived : (Tree.node kind children).Derived) : children ≠ [] := by
  rintro rfl
  cases derived with
  | node inner content => exact SyntaxKind.nil_notMem_content inner content

/-- A tree that is derived and no trivia ends with a significant token. -/
theorem Derived.exists_last {t : Tree} (derived : t.Derived) (plain : t.kind.isTrivia = false) :
    ∃ ls l, t.lexemes = ls ++ [l] ∧ l.isTrivia = false := by
  induction derived with
  | @token kind text _ => exact ⟨[], ⟨kind, text⟩, rfl, plain⟩
  | @node kind children inner content closed derived ih =>
    obtain none | ⟨init, last, rfl⟩ := children.eq_nil_or_concat'
    · exact absurd none (Derived.node inner content closed derived).children_ne_nil
    · have plain := closed last (by simp)
      obtain ⟨ls, l, ends, significant⟩ := ih last (by simp) plain
      refine ⟨lexemesOf init ++ ls, l, ?_, significant⟩
      rw [lexemes, lexemesOf_append, List.append_assoc, ← ends]
      simp [lexemesOf]

end Tree

open TokenStream (inside)

section
variable {text : Text} {s : Site} (mem : s ∈ (Source.ofText text).sites)
include mem

/-- A node whose own tokens start with a significant one has such a token first in its span. -/
theorem first_of_fronted (fronted : Fronted (lexemesOf s.children)) :
    ∀ t ∈ (inside s.span (TokenStream.ofText text)).head?, t.isTrivia = false ∧ t.start = s.start := by
  intro t first
  have same := congrArg List.head? (map_plain_inside mem)
  rw [List.head?_map, List.head?_map, Option.mem_def.1 first] at same
  cases own : lexemesOf s.children with
  | nil => simp [own, tokensFrom] at same
  | cons l ls =>
    rw [own] at fronted same
    have plain : t.plain = (Token.mk l.kind l.text s.start).plain := Option.some.inj same
    have significant : l.isTrivia = false := fronted l rfl
    rw [← t.isTrivia_plain, ← t.start_plain, plain, Token.isTrivia_plain]
    exact ⟨significant, rfl⟩

/-- A node whose own tokens end with a significant one has such a token last in its span. -/
theorem last_of_ends {ls : List Lexeme} {l : Lexeme} (ends : lexemesOf s.children = ls ++ [l])
    (significant : l.isTrivia = false) :
    ∃ t, (inside s.span (TokenStream.ofText text)).getLast? = some t ∧ t.isTrivia = false ∧
      t.stop = s.stop := by
  have same := congrArg List.getLast? (map_plain_inside mem)
  rw [List.getLast?_map, List.getLast?_map, ends, Lexeme.tokensFrom_append] at same
  simp only [tokensFrom, List.getLast?_concat, Option.map_some, Option.map_eq_some_iff] at same
  obtain ⟨t, last, plain⟩ := same
  refine ⟨t, last, ?_, ?_⟩
  · rw [← t.isTrivia_plain, plain, Token.isTrivia_plain]
    exact significant
  · rw [← t.stop_plain, plain, Token.stop_plain, Site.LiesIn.stop_eq, ends,
      Lexeme.size_join_append]
    simp [Token.stop, join, Nat.add_assoc]

end

/-- Where nodes start and end. The tokens in the span of a node are its own, up to which words its
words are. Whatever errors a text has, if there are any of a node other than the program, the first
one is significant and lies where the node starts. If the text has none, there are some, and the last
one is significant and lies where the node ends. -/
theorem sites_bounded (text : Text) : ∀ s ∈ (Source.ofText text).sites,
    (inside s.span (TokenStream.ofText text)).map Token.plain =
      (tokensFrom s.start (lexemesOf s.children)).map Token.plain ∧
    (s.kind ≠ .program →
      (∀ t ∈ (inside s.span (TokenStream.ofText text)).head?, t.isTrivia = false ∧ t.start = s.start) ∧
      ((parse text).errors = [] → ∃ first last,
        (inside s.span (TokenStream.ofText text)).head? = some first ∧
        (inside s.span (TokenStream.ofText text)).getLast? = some last ∧
        first.isTrivia = false ∧ first.start = s.start ∧
        last.isTrivia = false ∧ last.stop = s.stop)) := by
  intro s mem
  refine ⟨map_plain_inside mem, fun other => ?_⟩
  obtain ⟨t, among, part⟩ := exists_of_ne_program mem other
  have fronted : Fronted (lexemesOf s.children) := by
    cases (opened_programBody (lex text).lexemes t among).of_mem_parts part with
    | node fronted _ => exact fronted
  have starts := first_of_fronted mem fronted
  refine ⟨starts, fun clean => ?_⟩
  have derived := (derived_programBody (errors_parse.1 clean).2 t among).of_mem_parts part
  have inner : s.kind.isTrivia = false := by
    cases derived with
    | node inner => exact SyntaxKind.isTrivia_of_isInner inner
  obtain ⟨ls, l, ends, significant⟩ := derived.exists_last inner
  obtain ⟨last, isLast, plain, stop⟩ := last_of_ends mem ends significant
  cases first : (inside s.span (TokenStream.ofText text)).head? with
  | none =>
    rw [List.head?_eq_none_iff] at first
    rw [first] at isLast
    cases isLast
  | some t =>
    obtain ⟨opens, start⟩ := starts t first
    exact ⟨t, last, rfl, isLast, opens, start, plain, stop⟩

/-- A statement with white space around and inside of it. -/
def spacedText : Text := [' ', 'a', ' ', ';', ' ']

theorem sites_bounded_spacedText : (parse spacedText).errors = [] ∧
    ∃ s ∈ (Source.ofText spacedText).sites, s.kind = .expressionStatement ∧ ∃ first last,
      (inside s.span (TokenStream.ofText spacedText)).head? = some first ∧
      (inside s.span (TokenStream.ofText spacedText)).getLast? = some last ∧
      first.isTrivia = false ∧ first.start = s.start ∧
      last.isTrivia = false ∧ last.stop = s.stop := by
  have clean : (parse spacedText).errors = [] := by decide +kernel
  have kinds : (Source.ofText spacedText).sites.map Site.kind =
      [.program, .expressionStatement, .identifier] := by decide +kernel
  have among : SyntaxKind.expressionStatement ∈ (Source.ofText spacedText).sites.map Site.kind := by
    rw [kinds]
    decide
  obtain ⟨s, mem, kind⟩ := List.mem_map.1 among
  have other : s.kind ≠ .program := by
    rw [kind]
    decide
  exact ⟨clean, s, mem, kind, ((sites_bounded spacedText s mem).2 other).2 clean⟩

end ScriptLint
