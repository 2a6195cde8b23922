import ScriptLint.Proofs.Syntax.Neatness

/-!
# Texts that parse alike

Whether a text parses, and into which tree, depends on its trivia only through the lines that end
between its tokens. Two runs of a parser mirror each other if the second one is at the same
significant lexemes, respelled, with line breaks at the same places: if the first meets no error,
neither does the second, and the trees of both are the same up to trivia and spelling
(`Parsed.Mirrors`).

One place matters less. No parser asks for a line break between the tag of a tagged template and the
template, so there the texts may differ. Which places these are only the tree of the first run tells
(`Tree.tags`), so what a run says about its mirror images is about those that agree with its tree.
-/

namespace ScriptLint

namespace Lexeme

/-- Whether a map changes the texts of lexemes only, and those of names and reserved words not at
all. -/
structure Respells (spell : Lexeme → Lexeme) : Prop where
  kind : ∀ l, (spell l).kind = l.kind
  word : ∀ l, l.kind.namesProperty = true → spell l = l

theorem Respells.significant {spell : Lexeme → Lexeme} (respells : Respells spell) {l : Lexeme}
    (significant : l.isTrivia = false) : (spell l).isTrivia = false := by
  rwa [isTrivia, respells.kind]

theorem respells_id : Respells id := ⟨fun _ => rfl, fun _ _ => rfl⟩

/-- The significant lexemes, each with whether a line ends in the trivia before it; the first one may
have more trivia before it. -/
def items : (broken : Bool) → List Lexeme → List (Bool × Lexeme)
  | _, [] => []
  | broken, l :: ls =>
    if l.isTrivia then items (broken || l.hasLineBreak) ls else (broken, l) :: items false ls

theorem items_trivia {ts : List Lexeme} (trivia : ∀ l ∈ ts, l.isTrivia = true) (broken : Bool)
    (ls : List Lexeme) : items broken (ts ++ ls) = items (broken || ts.any hasLineBreak) ls := by
  induction ts generalizing broken with
  | nil => simp
  | cons t ts ih =>
    rw [List.cons_append, items, if_pos (trivia t List.mem_cons_self),
      ih fun l mem => trivia l (List.mem_cons_of_mem t mem), List.any_cons, Bool.or_assoc]

/-- Whether the items of two texts are the same, respelled: each mark allows a template to differ in
the line break before it. -/
inductive Along (spell : Lexeme → Lexeme) :
    List Bool → List (Bool × Lexeme) → List (Bool × Lexeme) → Prop
  | nil : Along spell [] [] []
  | cons {mark broken broken' : Bool} {l : Lexeme} {marks : List Bool}
      {xs ys : List (Bool × Lexeme)} (kept : broken' = broken ∨ (mark = true ∧ l.kind = .template))
      (rest : Along spell marks xs ys) :
      Along spell (mark :: marks) ((broken, l) :: xs) ((broken', spell l) :: ys)

theorem Along.length {spell : Lexeme → Lexeme} {marks : List Bool} {xs ys : List (Bool × Lexeme)}
    (along : Along spell marks xs ys) : ys.length = marks.length := by
  induction along with
  | nil => rfl
  | cons _ _ ih => simp [ih]

end Lexeme

namespace Cursor

/-- Whether what is left of one text at a cursor mirrors what is left of another. -/
def Along (spell : Lexeme → Lexeme) (marks : List Bool) (c d : Cursor) : Prop :=
  Lexeme.Along spell marks (Lexeme.items false c.rest) (Lexeme.items false d.rest)

/-- Whether the next significant lexeme at a cursor is that at another, respelled. -/
def Faces (spell : Lexeme → Lexeme) (c d : Cursor) : Prop :=
  d.significant? = c.significant?.map spell

variable {spell : Lexeme → Lexeme} {marks : List Bool} {c d : Cursor} {l : Lexeme}
  {rest : List Lexeme}

theorem items_pastTrivia (c : Cursor) (broken : Bool) :
    Lexeme.items broken c.rest = Lexeme.items (broken || c.atLineBreak) c.pastTrivia.rest := by
  rw [c.reads_trivia.1, Lexeme.items_trivia fun _ => isTrivia_of_mem_trivia]
  rfl

theorem items_of_cons (eq : c.pastTrivia.rest = l :: rest) (broken : Bool) :
    Lexeme.items broken c.rest = (broken || c.atLineBreak, l) :: Lexeme.items false rest := by
  rw [items_pastTrivia, eq, Lexeme.items, if_neg (by simp [isTrivia_of_rest eq])]

theorem items_of_nil (eq : c.pastTrivia.rest = []) (broken : Bool) :
    Lexeme.items broken c.rest = [] := by
  rw [items_pastTrivia, eq]
  rfl

/-- In front of a significant lexeme, the other text has it too. -/
theorem Along.of_cons (along : c.Along spell marks d) (eq : c.pastTrivia.rest = l :: rest) :
    ∃ mark marks' rest', marks = mark :: marks' ∧ d.pastTrivia.rest = spell l :: rest' ∧
      (d.atLineBreak = c.atLineBreak ∨ (mark = true ∧ l.kind = .template)) ∧
      ∀ i j, Along spell marks' ⟨i, rest⟩ ⟨j, rest'⟩ := by
  rw [Along, items_of_cons eq] at along
  cases eq' : d.pastTrivia.rest with
  | nil =>
    rw [items_of_nil eq'] at along
    cases along
  | cons l' rest' =>
    rw [items_of_cons eq'] at along
    generalize same : (false || d.atLineBreak, l') = item at along
    cases along with
    | cons kept behind =>
      cases same
      exact ⟨_, _, rest', rfl, rfl, by simpa using kept, fun _ _ => behind⟩

theorem Along.of_nil (along : c.Along spell marks d) (eq : c.pastTrivia.rest = []) :
    d.pastTrivia.rest = [] ∧ marks = [] := by
  rw [Along, items_of_nil eq] at along
  cases eq' : d.pastTrivia.rest with
  | nil =>
    rw [items_of_nil eq'] at along
    cases along
    exact ⟨rfl, rfl⟩
  | cons l' rest' =>
    rw [items_of_cons eq'] at along
    cases along

theorem Along.faces (along : c.Along spell marks d) : c.Faces spell d := by
  cases eq : c.pastTrivia.rest with
  | nil => simp [Faces, significant?, eq, (along.of_nil eq).1]
  | cons l rest =>
    obtain ⟨_, _, _, _, eq', _⟩ := along.of_cons eq
    simp [Faces, significant?, eq, eq']

/-- A line ends at both cursors or at none, unless a template may differ there. -/
theorem Along.atLineBreak (along : c.Along spell marks d) (more : c.current ≠ .endOfInput)
    (kept : c.current = .template → marks.head? ≠ some true) : d.atLineBreak = c.atLineBreak := by
  obtain ⟨l, rest, eq⟩ := List.exists_cons_of_ne_nil (rest_ne_nil_of_current more)
  obtain ⟨mark, _, _, rfl, _, same | ⟨rfl, template⟩, _⟩ := along.of_cons eq
  · exact same
  · exact absurd rfl (kept ((current_of_rest eq).trans template))

theorem Along.pastTrivia (along : c.Along spell marks d) :
    c.pastTrivia.Along spell marks d.pastTrivia := by
  cases eq : c.pastTrivia.rest with
  | nil =>
    obtain ⟨eq', rfl⟩ := along.of_nil eq
    simp only [Along, eq, eq']
    exact .nil
  | cons l rest =>
    obtain ⟨mark, marks', rest', rfl, eq', _, behind⟩ := along.of_cons eq
    have plain := isTrivia_of_rest eq
    have plain' := isTrivia_of_rest eq'
    simp only [Along, eq, eq', Lexeme.items, plain, plain']
    exact .cons (.inl rfl) (behind 0 0)

/-- Where a significant lexeme was read of one text, one was read of the other. -/
theorem length_lt_of_along {read : Bool} {reads behind : List Bool} {c' d' : Cursor}
    {ls : List Lexeme} (before : c.Along spell ((read :: reads) ++ behind) d)
    (after : c'.Along spell behind d') (moves : d.Reads ls d') : d'.length < d.length := by
  have some : ls ≠ [] := by
    rintro rfl
    have same : d.rest = d'.rest := moves.1
    have lengths := before.length
    rw [same, after.length, List.length_append, List.length_cons] at lengths
    omega
  have := List.length_pos_iff.2 some
  simp only [length, moves.1, List.length_append]
  omega

theorem Faces.current (respells : Lexeme.Respells spell) (faces : c.Faces spell d) :
    d.current = c.current := by
  unfold Faces at faces
  simp only [Cursor.current, faces, Option.map_map]
  congr 2
  funext l
  exact respells.kind l

theorem Faces.atWord (respells : Lexeme.Respells spell) (faces : c.Faces spell d) (word : Text) :
    d.atWord word = c.atWord word := by
  unfold Faces at faces
  simp only [Cursor.atWord, faces, Option.any_map]
  congr 1
  funext l
  by_cases ident : l.kind = .ident
  · simp [respells.word l (by simp [SyntaxKind.namesProperty, ident])]
  · have other : (l.kind == .ident) = false := by simpa using ident
    simp [respells.kind l, other]

end Cursor

namespace Tree

variable {spell : Lexeme → Lexeme}

mutual
/-- The tree without its trivia and with its tokens respelled; nothing is left of trivia. -/
def bare (spell : Lexeme → Lexeme) : Tree → List Tree
  | .token kind text => if kind.isTrivia then [] else [ofLexeme (spell ⟨kind, text⟩)]
  | .node kind children => [.node kind (bareOf spell children)]

def bareOf (spell : Lexeme → Lexeme) : List Tree → List Tree
  | [] => []
  | t :: ts => bare spell t ++ bareOf spell ts
end

/-- Marks with the last one set. -/
def markLast : List Bool → List Bool
  | [] => []
  | [_] => [true]
  | mark :: next :: marks => mark :: markLast (next :: marks)

theorem length_markLast (marks : List Bool) : (markLast marks).length = marks.length := by
  fun_induction markLast marks <;> simp_all

theorem markLast_concat (marks : List Bool) (mark : Bool) :
    markLast (marks ++ [mark]) = marks ++ [true] := by
  induction marks with
  | nil => rfl
  | cons first marks ih =>
    obtain ⟨next, rest, eq⟩ := List.exists_cons_of_ne_nil (l := marks ++ [mark]) (by simp)
    rw [List.cons_append, eq, markLast, ← eq, ih, List.cons_append]

mutual
/-- For each significant token of the tree, whether it is the template of a tagged template. -/
def tags : Tree → List Bool
  | .token kind _ => if kind.isTrivia then [] else [false]
  | .node kind children =>
    if kind = .taggedTemplateExpression then markLast (tagsOf children) else tagsOf children

def tagsOf : List Tree → List Bool
  | [] => []
  | t :: ts => tags t ++ tagsOf ts
end

@[simp] theorem bareOf_nil : bareOf spell [] = [] := rfl

@[simp] theorem bareOf_append (s t : List Tree) :
    bareOf spell (s ++ t) = bareOf spell s ++ bareOf spell t := by
  induction s with
  | nil => rfl
  | cons x xs ih => simp [bareOf, ih]

@[simp] theorem bareOf_node (kind : SyntaxKind) (ts : List Tree) :
    bareOf spell [.node kind ts] = [.node kind (bareOf spell ts)] := by
  simp [bareOf, bare]

@[simp] theorem bareOf_trivia {ls : List Lexeme} (trivia : ∀ l ∈ ls, l.isTrivia = true) :
    bareOf spell (ls.map ofLexeme) = [] := by
  induction ls with
  | nil => rfl
  | cons l ls ih =>
    have first : l.kind.isTrivia = true := trivia l List.mem_cons_self
    simp [bareOf, bare, ofLexeme, first, ih fun l mem => trivia l (List.mem_cons_of_mem _ mem)]

@[simp] theorem tagsOf_nil : tagsOf [] = [] := rfl

@[simp] theorem tagsOf_append (s t : List Tree) : tagsOf (s ++ t) = tagsOf s ++ tagsOf t := by
  induction s with
  | nil => rfl
  | cons x xs ih => simp [tagsOf, ih]

theorem tagsOf_singleton (t : Tree) : tagsOf [t] = tags t := List.append_nil _

theorem lexemesOf_singleton (t : Tree) : lexemesOf [t] = lexemes t := List.append_nil _

theorem tagsOf_node {kind : SyntaxKind} (plain : kind ≠ .taggedTemplateExpression)
    (ts : List Tree) : tagsOf [.node kind ts] = tagsOf ts := by
  simp [tagsOf, tags, plain]

@[simp] theorem tagsOf_trivia {ls : List Lexeme} (trivia : ∀ l ∈ ls, l.isTrivia = true) :
    tagsOf (ls.map ofLexeme) = [] := by
  induction ls with
  | nil => rfl
  | cons l ls ih =>
    have first : l.kind.isTrivia = true := trivia l List.mem_cons_self
    simp [tagsOf, tags, ofLexeme, first, ih fun l mem => trivia l (List.mem_cons_of_mem _ mem)]

theorem bareOf_token {kind : SyntaxKind} (significant : kind.isTrivia = false) (text : Text) :
    bareOf spell [.token kind text] = [ofLexeme (spell ⟨kind, text⟩)] := by
  simp [bareOf, bare, significant]

theorem tagsOf_token {kind : SyntaxKind} (significant : kind.isTrivia = false) (text : Text) :
    tagsOf [.token kind text] = [false] := by
  simp [tagsOf, tags, significant]

/-- The template of a tagged template is marked. -/
theorem tags_tagged (tag : List Tree) {gap : List Lexeme} (text : Text)
    (trivia : ∀ l ∈ gap, l.isTrivia = true) :
    tags (.node .taggedTemplateExpression
      (tag ++ gap.map ofLexeme ++ [.node .templateLiteral [.token .template text]])) =
      tagsOf tag ++ [true] := by
  rw [tags, if_pos rfl, tagsOf_append, tagsOf_append, tagsOf_trivia trivia, List.append_nil,
    tagsOf_node (by decide), tagsOf_token rfl, markLast_concat]

theorem bareOf_cons {l : Lexeme} (significant : l.isTrivia = false) (ts : List Tree) :
    bareOf spell (ofLexeme l :: ts) = ofLexeme (spell l) :: bareOf spell ts := by
  have plain : l.kind.isTrivia = false := significant
  simp [bareOf, bare, ofLexeme, plain]

theorem tagsOf_cons {l : Lexeme} (significant : l.isTrivia = false) (ts : List Tree) :
    tagsOf (ofLexeme l :: ts) = false :: tagsOf ts := by
  have plain : l.kind.isTrivia = false := significant
  simp [tagsOf, tags, ofLexeme, plain]

theorem bareOf_ofLexeme {l : Lexeme} (significant : l.isTrivia = false) :
    bareOf spell [ofLexeme l] = [ofLexeme (spell l)] := bareOf_cons significant []

theorem tagsOf_ofLexeme {l : Lexeme} (significant : l.isTrivia = false) :
    tagsOf [ofLexeme l] = [false] := tagsOf_cons significant []

mutual
theorem bareOf_bare (respells : Lexeme.Respells spell) (t : Tree) :
    bareOf id (bare spell t) = bare spell t := by
  cases t with
  | token kind text =>
    simp only [bare]
    split
    · rfl
    · rename_i significant
      exact bareOf_ofLexeme (respells.significant (Bool.eq_false_iff.2 significant))
  | node kind children => simp [bare, bareOf_bareOf respells children]

theorem bareOf_bareOf (respells : Lexeme.Respells spell) (ts : List Tree) :
    bareOf id (bareOf spell ts) = bareOf spell ts := by
  cases ts with
  | nil => rfl
  | cons t ts =>
    rw [bareOf, bareOf_append, bareOf_bare respells t, bareOf_bareOf respells ts]
end

mutual
/-- Which templates are tagged does not depend on trivia and spelling. -/
theorem tagsOf_bare (respells : Lexeme.Respells spell) (t : Tree) :
    tagsOf (bare spell t) = tags t := by
  cases t with
  | token kind text =>
    by_cases trivia : kind.isTrivia
    · simp [bare, tags, trivia]
    · have significant : (spell ⟨kind, text⟩).isTrivia = false :=
        respells.significant (show kind.isTrivia = false by simpa using trivia)
      simp [bare, tags, trivia, tagsOf_ofLexeme significant]
  | node kind children =>
    rw [bare, tagsOf_singleton, tags, tags, tagsOf_bareOf respells children]

theorem tagsOf_bareOf (respells : Lexeme.Respells spell) (ts : List Tree) :
    tagsOf (bareOf spell ts) = tagsOf ts := by
  cases ts with
  | nil => rfl
  | cons t ts => rw [bareOf, tagsOf_append, tagsOf_bare respells t, tagsOf_bareOf respells ts, tagsOf]
end

mutual
/-- The tokens of the tree without its trivia are the significant ones, respelled. -/
theorem lexemesOf_bare (t : Tree) :
    lexemesOf (bare spell t) = (t.lexemes.filter fun l => ! l.isTrivia).map spell := by
  cases t with
  | token kind text =>
    by_cases trivia : kind.isTrivia <;>
      simp [bare, lexemes, lexemesOf, Lexeme.isTrivia, trivia]
  | node kind children => rw [bare, lexemesOf_node, lexemes, lexemesOf_bareOf children]

theorem lexemesOf_bareOf (ts : List Tree) :
    lexemesOf (bareOf spell ts) = ((lexemesOf ts).filter fun l => ! l.isTrivia).map spell := by
  cases ts with
  | nil => rfl
  | cons t ts =>
    rw [bareOf, lexemesOf_append, lexemesOf_bare t, lexemesOf_bareOf ts, lexemesOf, List.filter_append,
      List.map_append]
end

mutual
theorem length_tags (t : Tree) : (tags t).length = t.lexemes.countP fun l => ! l.isTrivia := by
  cases t with
  | token kind text => by_cases trivia : kind.isTrivia <;> simp [tags, lexemes, Lexeme.isTrivia, trivia]
  | node kind children =>
    simp only [tags, lexemes]
    split
    · rw [length_markLast, length_tagsOf children]
    · exact length_tagsOf children

theorem length_tagsOf (ts : List Tree) :
    (tagsOf ts).length = (lexemesOf ts).countP fun l => ! l.isTrivia := by
  cases ts with
  | nil => rfl
  | cons t ts => simp [tagsOf, lexemesOf, length_tags t, length_tagsOf ts]
end

theorem tagsOf_ne_nil {ts : List Tree} (ends : Lexeme.Ends (lexemesOf ts)) : tagsOf ts ≠ [] := by
  obtain ⟨l, last, significant, -⟩ := ends
  intro none
  have count := length_tagsOf ts
  rw [none, List.length_nil, eq_comm, List.countP_eq_zero] at count
  exact count l (List.mem_of_getLast? last) (by simp [significant])

end Tree

open ScriptLint.Tree (tagsOf bareOf)

namespace Parsed

/-- Whatever marks come behind. -/
def Anything (_ : List Bool) : Prop := True

/-- Marks that do not start with the template of a tagged template. -/
def Untagged (behind : List Bool) : Prop := behind.head? ≠ some true

variable {n m : Nat}

theorem untagged_append {marks behind : List Bool} (first : Untagged marks)
    (second : Untagged behind) : Untagged (marks ++ behind) := by
  cases marks with
  | nil => exact second
  | cons mark marks => exact first

/-- Whether a second run ends like the first one, in front of what the marks are for. -/
structure Echoes (r : Parsed n) (spell : Lexeme → Lexeme) (behind : List Bool) (s : Parsed m) :
    Prop where
  errors : s.errors = []
  out : bareOf id s.out = bareOf spell r.out
  next : r.next.Along spell behind s.next

/-- Whether runs of a parser mirror a run without errors. The marks in front are for trees that the
parser was handed. -/
def Mirrors (r : Parsed n) (spell : Lexeme → Lexeme) (Behind : List Bool → Prop)
    (before : List Bool) (c : Cursor) (p : Parser m) : Prop :=
  r.errors = [] → ∃ marks, tagsOf r.out = before ++ marks ∧
    ∀ behind, Behind behind → ∀ d h, c.Along spell (marks ++ behind) d →
      r.Echoes spell behind (p d h)

theorem untagged_of_all {ts : List Tree} (all : ∀ t ∈ ts, Untagged t.tags) :
    Untagged (tagsOf ts) := by
  induction ts with
  | nil => simp [Untagged]
  | cons t ts ih =>
    exact untagged_append (all t List.mem_cons_self)
      (ih fun t mem => all t (List.mem_cons_of_mem _ mem))

/-- A tree that is formed does not start with the template of a tagged template. -/
theorem untagged_tags {t : Tree} (formed : t.Formed) : Untagged t.tags := by
  induction formed with
  | @token kind text _ => by_cases trivia : kind.isTrivia <;> simp [Tree.tags, Untagged, trivia]
  | @literal l significant =>
    rw [Tree.tags, if_neg (by decide), Tree.tagsOf_ofLexeme significant]
    simp [Untagged]
  | @tagged tag gap text _ ends trivia ih =>
    obtain ⟨mark, marks, eq⟩ := List.exists_cons_of_ne_nil (Tree.tagsOf_ne_nil ends)
    have first := untagged_of_all ih
    rw [Tree.tags_tagged tag text trivia]
    rw [eq] at first ⊢
    exact first
  | node plain _ _ ih =>
    rw [Tree.tags, if_neg plain.2]
    exact untagged_of_all ih

theorem IsWhole.untagged {r : Parsed n} (whole : r.IsWhole .semicolon) (errors : r.errors = [])
    (behind : List Bool) : Untagged (tagsOf r.out ++ behind) := by
  have first := untagged_of_all fun t mem => untagged_tags ((whole errors).formed t mem)
  obtain ⟨mark, marks, eq⟩ := List.exists_cons_of_ne_nil (Tree.tagsOf_ne_nil (whole errors).ends)
  rw [eq] at first ⊢
  exact first

theorem IsNeat.untagged {r : Parsed n} (neat : r.IsNeat .semicolon) (errors : r.errors = [])
    {behind : List Bool} (untagged : Untagged behind) : Untagged (tagsOf r.out ++ behind) := by
  rcases neat errors with none | whole
  · rwa [none]
  · exact IsWhole.untagged (fun _ => whole) errors behind

variable {r : Parsed n} {spell : Lexeme → Lexeme} {Behind : List Bool → Prop} {before : List Bool}
  {c : Cursor} {p : Parser m}

theorem mirrors_of_errors (errors : r.errors ≠ []) : r.Mirrors spell Behind before c p :=
  fun none => absurd none errors

theorem Mirrors.mono {Wider : List Bool → Prop} (mirrors : r.Mirrors spell Wider before c p)
    (wider : ∀ behind, Behind behind → Wider behind) : r.Mirrors spell Behind before c p := by
  intro errors
  obtain ⟨marks, tags, echoes⟩ := mirrors errors
  exact ⟨marks, tags, fun behind allowed => echoes behind (wider behind allowed)⟩

/-- Each run of a parser may be explained by another parser. -/
theorem mirrors_of_runs (known : ∃ q : Parser m, r.Mirrors spell Behind before c q)
    (runs : ∀ marks behind d h, r.errors = [] → tagsOf r.out = before ++ marks → Behind behind →
      c.Along spell (marks ++ behind) d →
        ∃ q : Parser m, r.Mirrors spell Behind before c q ∧ p d h = q d h) :
    r.Mirrors spell Behind before c p := by
  intro errors
  obtain ⟨_, mirrors⟩ := known
  obtain ⟨marks, tags, -⟩ := mirrors errors
  refine ⟨marks, tags, fun behind allowed d h along => ?_⟩
  obtain ⟨q, mirrors, same⟩ := runs marks behind d h errors tags allowed along
  obtain ⟨marks', tags', echoes⟩ := mirrors errors
  obtain rfl : marks' = marks := List.append_cancel_left (tags' ▸ tags)
  exact same ▸ echoes behind allowed d h along

end Parsed

namespace Parser

open Parsed (Anything Untagged mirrors_of_errors mirrors_of_runs)

variable {n m : Nat} {spell : Lexeme → Lexeme} {Behind : List Bool → Prop}
  {before : List Bool} {c : Cursor} {h : c.length < n} {p q : Parser n} {p' q' : Parser m}
  {use : List Tree → Parser n} {use' : List Tree → Parser m} {held held' : List Tree}
  {kind : SyntaxKind}

theorem mirrors_emit (same : bareOf id held' = bareOf spell held) :
    (emit held c h).Mirrors spell Behind (tagsOf held) c (emit held' : Parser m) :=
  fun _ => ⟨[], by simp [emit], fun _ _ _ _ along => ⟨rfl, same, along⟩⟩

theorem mirrors_skip : ((skip : Parser n) c h).Mirrors spell Behind [] c (skip : Parser m) :=
  mirrors_emit rfl

theorem mirrors_fail {problem : SyntaxKind → SyntaxProblem} :
    ((fail problem : Parser n) c h).Mirrors spell Behind before c p' :=
  mirrors_of_errors (by simp [fail])

theorem mirrors_reject {problem : SyntaxKind → SyntaxProblem} :
    ((reject problem : Parser n) c h).Mirrors spell Behind before c p' :=
  mirrors_of_errors errors_reject

theorem mirrors_trivia :
    ((trivia : Parser n) c h).Mirrors spell Behind [] c (trivia : Parser m) := by
  intro _
  have nothing {c : Cursor} : bareOf id (c.trivia.map Tree.ofLexeme) = [] :=
    Tree.bareOf_trivia fun _ => Cursor.isTrivia_of_mem_trivia
  refine ⟨[], Tree.tagsOf_trivia fun _ => Cursor.isTrivia_of_mem_trivia, ?_⟩
  intro behind _ d _ along
  refine ⟨rfl, ?_, along.pastTrivia⟩
  exact nothing.trans (Tree.bareOf_trivia fun _ => Cursor.isTrivia_of_mem_trivia).symm

theorem exists_faces (respells : Lexeme.Respells spell) (c : Cursor) : ∃ d, c.Faces spell d := by
  cases eq : c.pastTrivia.rest with
  | nil =>
    have next : c.significant? = none := by simp [Cursor.significant?, eq]
    exact ⟨⟨0, []⟩, by rw [Cursor.Faces, next]; rfl⟩
  | cons l rest =>
    have plain := respells.significant (Cursor.isTrivia_of_rest eq)
    refine ⟨⟨0, [spell l]⟩, ?_⟩
    rw [Cursor.Faces, Cursor.significant?_of_rest eq]
    simp [Cursor.significant?, Cursor.pastTrivia, plain]

/-- A choice by the next significant lexeme. -/
theorem mirrors_look (respells : Lexeme.Respells spell) {choose : Cursor → Parser n}
    {choose' : Cursor → Parser m}
    (chosen : ∀ d, c.Faces spell d → (choose c c h).Mirrors spell Behind before c (choose' d)) :
    (look choose c h).Mirrors spell Behind before c (look choose') := by
  obtain ⟨d, faces⟩ := exists_faces respells c
  exact mirrors_of_runs ⟨_, chosen d faces⟩ fun _ _ d _ _ _ _ along =>
    ⟨_, chosen d along.faces, rfl⟩

/-- A choice by the kind of the next significant lexeme. -/
theorem mirrors_choose (respells : Lexeme.Respells spell) {choose : SyntaxKind → Parser n}
    {choose' : SyntaxKind → Parser m}
    (chosen : (choose c.current c h).Mirrors spell Behind before c (choose' c.current)) :
    (look (fun c => choose c.current) c h).Mirrors spell Behind before c
      (look fun c => choose' c.current) :=
  mirrors_look respells fun _ faces => faces.current respells ▸ chosen

/-- A choice by the next significant lexeme and by whether a line ends before it. Unless the choice
is the same either way, no template may be next that is allowed to differ there. -/
theorem mirrors_ask (respells : Lexeme.Respells spell) (choose : SyntaxKind → Bool → Parser n)
    (choose' : SyntaxKind → Bool → Parser m)
    (chosen : (choose c.current c.atLineBreak c h).Mirrors spell Behind before c
      (choose' c.current c.atLineBreak))
    (kept : (∀ broken, choose' c.current broken = choose' c.current c.atLineBreak) ∨
      (c.current ≠ .endOfInput ∧ (c.current = .template → ∀ marks behind,
        (choose c.current c.atLineBreak c h).errors = [] →
          tagsOf (choose c.current c.atLineBreak c h).out = before ++ marks → Behind behind →
            Untagged (marks ++ behind)))) :
    (look (fun c => choose c.current c.atLineBreak) c h).Mirrors spell Behind before c
      (look fun c => choose' c.current c.atLineBreak) := by
  refine mirrors_of_runs ⟨_, chosen⟩ fun marks behind d hd errors tags allowed along =>
    ⟨_, chosen, ?_⟩
  have same : choose' d.current d.atLineBreak = choose' c.current c.atLineBreak := by
    rw [along.faces.current respells]
    rcases kept with free | ⟨more, template⟩
    · exact free d.atLineBreak
    · rw [along.atLineBreak more fun at_ => template at_ marks behind errors tags allowed]
  show choose' d.current d.atLineBreak d hd = _
  rw [same]

theorem mirrors_andThenOf (First : List Bool → Prop) (first : (p c h).Mirrors spell First before c p')
    (second : (p c h).errors = [] →
      (q (p c h).next (p c h).bound).Mirrors spell Behind [] (p c h).next q')
    (link : (q (p c h).next (p c h).bound).errors = [] → ∀ behind, Behind behind →
      First (tagsOf (q (p c h).next (p c h).bound).out ++ behind)) :
    (andThen p q c h).Mirrors spell Behind before c (andThen p' q') := by
  intro errors
  obtain ⟨one, two⟩ := errors_andThen.1 errors
  obtain ⟨reads, tags, echoes⟩ := first one
  obtain ⟨more, tags', echoes'⟩ := second one two
  refine ⟨reads ++ more, ?_, fun behind allowed d hd along => ?_⟩
  · show tagsOf ((p c h).out ++ _) = _
    rw [Tree.tagsOf_append, tags, tags', List.nil_append, List.append_assoc]
  · rw [List.append_assoc] at along
    have now := echoes (more ++ behind) (by simpa [tags'] using link two behind allowed) d hd along
    have later := echoes' behind allowed _ (p' d hd).bound now.next
    refine ⟨errors_andThen.2 ⟨now.errors, later.errors⟩, ?_, later.next⟩
    show bareOf id ((p' d hd).out ++ _) = bareOf spell ((p c h).out ++ _)
    rw [Tree.bareOf_append, Tree.bareOf_append, now.out, later.out]

theorem mirrors_andThen (first : (p c h).Mirrors spell Anything before c p')
    (second : (p c h).errors = [] →
      (q (p c h).next (p c h).bound).Mirrors spell Behind [] (p c h).next q') :
    (andThen p q c h).Mirrors spell Behind before c (andThen p' q') :=
  mirrors_andThenOf Anything first second fun _ _ _ => trivial

/-- Trees that are handed out at once go before those that are still held. -/
theorem mirrors_emitThen (same : bareOf id held' = bareOf spell held)
    (second : (p c h).Mirrors spell Behind before c p') :
    (andThen (emit held) p c h).Mirrors spell Behind (tagsOf held ++ before) c
      (andThen (emit held') p') := by
  intro errors
  obtain ⟨marks, tags, echoes⟩ := second errors
  refine ⟨marks, ?_, fun behind allowed d hd along => ?_⟩
  · show tagsOf (held ++ (p c h).out) = _
    rw [Tree.tagsOf_append, tags, List.append_assoc]
  · have echo := echoes behind allowed d hd along
    refine ⟨echo.errors, ?_, echo.next⟩
    show bareOf id (held' ++ (p' d hd).out) = bareOf spell (held ++ (p c h).out)
    rw [Tree.bareOf_append, Tree.bareOf_append, same, echo.out]

theorem mirrors_triviaThen {ts ts' : List Lexeme} (trivia : ∀ l ∈ ts, l.isTrivia = true)
    (trivia' : ∀ l ∈ ts', l.isTrivia = true) (second : (p c h).Mirrors spell Behind before c p') :
    (andThen (emit (ts.map Tree.ofLexeme)) p c h).Mirrors spell Behind before c
      (andThen (emit (ts'.map Tree.ofLexeme)) p') := by
  have nothing : bareOf id (ts'.map Tree.ofLexeme) = bareOf spell (ts.map Tree.ofLexeme) := by
    rw [Tree.bareOf_trivia trivia, Tree.bareOf_trivia trivia']
  have parts := mirrors_emitThen nothing second
  rwa [Tree.tagsOf_trivia trivia, List.nil_append] at parts

theorem mirrors_capture (respells : Lexeme.Respells spell)
    (first : (p c h).Mirrors spell Anything [] c p')
    (second : (p c h).errors = [] → ∀ out', bareOf id out' = bareOf spell (p c h).out →
      (use (p c h).out (p c h).next (p c h).bound).Mirrors spell Behind
        (before ++ tagsOf (p c h).out) (p c h).next (use' out')) :
    (capture p use c h).Mirrors spell Behind before c (capture p' use') := by
  intro errors
  obtain ⟨one, two⟩ := List.append_eq_nil_iff.1 errors
  obtain ⟨reads, tags, echoes⟩ := first one
  obtain ⟨more, tags', -⟩ := second one _ (Tree.bareOf_bareOf respells (p c h).out) two
  rw [List.nil_append] at tags
  refine ⟨reads ++ more, ?_, fun behind allowed d hd along => ?_⟩
  · show tagsOf (use (p c h).out _ _).out = _
    rw [tags', tags, List.append_assoc]
  · rw [List.append_assoc] at along
    have now := echoes (more ++ behind) trivial d hd along
    obtain ⟨more', tags'', echoes'⟩ := second one _ now.out two
    obtain rfl : more' = more := List.append_cancel_left (tags''.symm.trans tags')
    have later := echoes' behind allowed _ (p' d hd).bound now.next
    exact ⟨List.append_eq_nil_iff.2 ⟨now.errors, later.errors⟩, later.out, later.next⟩

theorem mirrors_marked (respells : Lexeme.Respells spell)
    (first : ∀ h, (p c.pastTrivia h).Mirrors spell Anything [] c.pastTrivia p')
    (second : ∀ out out' d h, bareOf id out' = bareOf spell out →
      (use out d h).Mirrors spell Behind (tagsOf out) d (use' out')) :
    (marked p use c h).Mirrors spell Behind [] c (marked p' use') :=
  mirrors_andThen mirrors_trivia fun _ =>
    mirrors_capture respells (first _) fun _ _ same => second _ _ _ _ same

/-- A node around trees held and what is read behind them. -/
theorem mirrors_wrap (plain : kind ≠ .taggedTemplateExpression)
    (same : bareOf id held' = bareOf spell held)
    (inner : (p c h).Mirrors spell Behind [] c p') :
    (wrap kind held p c h).Mirrors spell Behind (tagsOf held) c (wrap kind held' p') := by
  intro errors
  obtain ⟨marks, tags, echoes⟩ := inner (List.append_eq_nil_iff.1 errors).1
  have out : (wrap kind held p c h).out = [.node kind (held ++ (p c h).out)] := rfl
  refine ⟨marks, ?_, fun behind allowed d hd along => ?_⟩
  · rw [out, Tree.tagsOf_node plain, Tree.tagsOf_append, tags, List.nil_append]
  · have echo := echoes behind allowed d hd along
    refine ⟨List.append_eq_nil_iff.2 ⟨echo.errors, rfl⟩, ?_, echo.next⟩
    have out' : (wrap kind held' p' d hd).out = [.node kind (held' ++ (p' d hd).out)] := rfl
    rw [out, out', Tree.bareOf_node, Tree.bareOf_node, Tree.bareOf_append, Tree.bareOf_append,
      same, echo.out]

theorem mirrors_node (plain : kind ≠ .taggedTemplateExpression)
    (inner : ∀ h, (p c.pastTrivia h).Mirrors spell Behind [] c.pastTrivia p') :
    (node kind p c h).Mirrors spell Behind [] c (node kind p') :=
  mirrors_andThen mirrors_trivia fun _ =>
    mirrors_wrap plain (show bareOf id [] = bareOf spell [] from rfl) (inner _)

/-- Behind the next significant lexeme. -/
theorem mirrors_take (mark : Bool) {use : List Tree → Lexeme → Parser n}
    {use' : List Tree → Lexeme → Parser m} {h : c.length < n + 1} (more : c.pastTrivia.rest ≠ [])
    (second : ∀ l d hd, c.current = l.kind → l.isTrivia = false →
      ∀ ts : List Lexeme, (∀ l ∈ ts, l.isTrivia = true) →
        (use (c.trivia.map Tree.ofLexeme) l d hd).Mirrors spell Behind (before ++ [mark]) d
          (use' (ts.map Tree.ofLexeme) (spell l))) :
    (take use c h).Mirrors spell Behind before c (take use') := by
  obtain ⟨l, rest, eq, hd⟩ := Cursor.exists_token more h
  have kind := Cursor.current_of_rest eq
  have plain := Cursor.isTrivia_of_rest eq
  rw [take_of_cons eq hd]
  intro errors
  obtain ⟨marks, tags, -⟩ := second l _ hd kind plain [] (by simp) errors
  refine ⟨mark :: marks, by simpa using tags, fun behind allowed d hd' along => ?_⟩
  obtain ⟨mark', marks', rest', same, eq', -, along⟩ := along.of_cons eq
  obtain ⟨rfl, rfl⟩ : mark = mark' ∧ marks ++ behind = marks' := by simpa using same
  have bound := Nat.lt_of_lt_of_le (Cursor.length_behind eq' (d.pastTrivia.offset + (spell l).size))
    (Nat.le_of_lt_succ hd')
  obtain ⟨marks', tags', echoes⟩ :=
    second l _ hd kind plain d.trivia (fun _ => Cursor.isTrivia_of_mem_trivia) errors
  obtain rfl : marks' = marks := List.append_cancel_left (tags'.symm.trans tags)
  rw [take_of_cons eq' bound]
  have echo := echoes behind allowed _ bound (along _ _)
  exact ⟨echo.errors, echo.out, echo.next⟩

/-- The next token with the trivia before it. -/
theorem mirrors_bumpThen {h : c.length < n + 1} (respells : Lexeme.Respells spell)
    (second : ∀ d h, (p d h).Mirrors spell Behind [] d p') :
    (bumpThen p c h).Mirrors spell Behind [] c (bumpThen p') := by
  by_cases eq : c.pastTrivia.rest = []
  · rw [bumpThen, take_of_nil eq]
    refine mirrors_of_runs ⟨trivia, mirrors_trivia⟩ fun _ _ d hd _ _ _ along => ?_
    exact ⟨trivia, mirrors_trivia, take_of_nil (along.of_nil eq).1⟩
  · refine mirrors_take false eq fun l d hd kind plain ts trivia => ?_
    have plain' := respells.significant plain
    have tags : tagsOf (c.trivia.map Tree.ofLexeme ++ [.ofLexeme l]) = [false] := by
      rw [Tree.tagsOf_append, Tree.tagsOf_trivia fun _ => Cursor.isTrivia_of_mem_trivia,
        Tree.tagsOf_ofLexeme plain, List.nil_append]
    have same : bareOf id (ts.map Tree.ofLexeme ++ [.ofLexeme (spell l)]) =
        bareOf spell (c.trivia.map Tree.ofLexeme ++ [.ofLexeme l]) := by
      rw [Tree.bareOf_append, Tree.bareOf_append, Tree.bareOf_trivia trivia,
        Tree.bareOf_trivia fun _ => Cursor.isTrivia_of_mem_trivia, Tree.bareOf_ofLexeme plain,
        Tree.bareOf_ofLexeme plain']
      rfl
    have token := mirrors_emitThen same (second d hd)
    rwa [tags] at token

theorem mirrors_bumpAs (significant : kind.isTrivia = false)
    (spelled : ∀ l, c.significant? = some l → spell ⟨kind, l.text⟩ = ⟨kind, (spell l).text⟩) :
    ((bumpAs kind : Parser n) c h).Mirrors spell Behind [] c (bumpAs kind : Parser m) := by
  cases eq : c.pastTrivia.rest with
  | nil =>
    rw [bumpAs_of_nil eq]
    refine mirrors_of_runs ⟨trivia, mirrors_trivia⟩ fun _ _ d hd _ _ _ along => ?_
    exact ⟨trivia, mirrors_trivia, bumpAs_of_nil (along.of_nil eq).1⟩
  | cons l rest =>
    intro _
    rw [bumpAs_of_cons eq (Nat.lt_trans (Cursor.length_behind eq _) h)]
    refine ⟨[false], ?_, fun behind _ d hd along => ?_⟩
    · show tagsOf (c.trivia.map Tree.ofLexeme ++ [.token kind l.text]) = _
      rw [Tree.tagsOf_append, Tree.tagsOf_trivia fun _ => Cursor.isTrivia_of_mem_trivia,
        Tree.tagsOf_token significant]
    · obtain ⟨mark, marks, rest', same, eq', -, along⟩ := along.of_cons eq
      obtain ⟨-, rfl⟩ : false = mark ∧ behind = marks := by simpa using same
      rw [bumpAs_of_cons eq' (Nat.lt_trans (Cursor.length_behind eq' _) hd)]
      refine ⟨rfl, ?_, along _ _⟩
      show bareOf id (d.trivia.map Tree.ofLexeme ++ [.token kind (spell l).text]) =
        bareOf spell (c.trivia.map Tree.ofLexeme ++ [.token kind l.text])
      rw [Tree.bareOf_append, Tree.bareOf_append,
        Tree.bareOf_trivia fun _ => Cursor.isTrivia_of_mem_trivia,
        Tree.bareOf_trivia fun _ => Cursor.isTrivia_of_mem_trivia, Tree.bareOf_token significant,
        Tree.bareOf_token significant, spelled l (Cursor.significant?_of_rest eq)]
      rfl

theorem mirrors_bump (respells : Lexeme.Respells spell) :
    ((bump : Parser n) c h).Mirrors spell Behind [] c (bump : Parser m) := by
  refine mirrors_choose respells (mirrors_bumpAs c.isTrivia_current fun l next => ?_)
  rw [Cursor.current_of_significant? next]
  exact congrArg (Lexeme.mk · (spell l).text) (respells.kind l)

theorem mirrors_expect (respells : Lexeme.Respells spell) :
    ((expect kind : Parser n) c h).Mirrors spell Behind [] c (expect kind : Parser m) := by
  refine mirrors_look respells fun d faces => ?_
  rw [faces.current respells]
  split
  · exact mirrors_bump respells
  · exact mirrors_fail

theorem progress_of_lt {p stuck : Parser (n + 1)} {h : c.length < n + 1}
    (shorter : (p c h).next.length < c.length) :
    progress p q stuck c h =
      let b := q (p c h).next (Nat.lt_of_lt_of_le shorter (Nat.le_of_lt_succ h))
      ⟨(p c h).out ++ b.out, (p c h).errors ++ b.errors, b.next, Nat.lt_succ_of_lt b.bound⟩ :=
  dif_pos shorter

/-- A loop goes on in both runs, since what it reads is never empty. -/
theorem mirrors_progress (First : List Bool → Prop) {p stuck : Parser (n + 1)}
    {p' stuck' : Parser (m + 1)} {h : c.length < n + 1} (first : (p c h).Mirrors spell First [] c p')
    (reads : (p c h).errors = [] → (p c h).next.length < c.length ∧ tagsOf (p c h).out ≠ [])
    (moves : ∀ (d : Cursor) (h : d.length < m + 1), ∃ ls, d.Reads ls (p' d h).next)
    (second : (p c h).errors = [] → ∀ hd,
      (q (p c h).next hd).Mirrors spell Behind [] (p c h).next q')
    (link : ∀ hd, (q (p c h).next hd).errors = [] → ∀ behind, Behind behind →
      First (tagsOf (q (p c h).next hd).out ++ behind)) :
    (progress p q stuck c h).Mirrors spell Behind [] c (progress p' q' stuck') := by
  intro errors
  have one := errors_progress errors
  obtain ⟨shorter, some⟩ := reads one
  rw [progress_of_lt shorter] at errors ⊢
  have two := (List.append_eq_nil_iff.1 errors).2
  obtain ⟨now, tags, echoes⟩ := first one
  obtain ⟨later, tags', echoes'⟩ := second one _ two
  refine ⟨now ++ later, ?_, fun behind allowed d hd along => ?_⟩
  · show tagsOf ((p c h).out ++ _) = _
    rw [Tree.tagsOf_append, tags, tags', List.append_assoc]
    rfl
  · rw [List.append_assoc] at along
    have ahead := link _ two behind allowed
    rw [tags', List.nil_append] at ahead
    have echo := echoes (later ++ behind) ahead d hd along
    obtain ⟨mark, marks, rfl⟩ := List.exists_cons_of_ne_nil (tags ▸ some)
    obtain ⟨ls, read⟩ := moves d hd
    have shorter' : (p' d hd).next.length < d.length :=
      Cursor.length_lt_of_along along echo.next read
    rw [progress_of_lt shorter']
    have echo' := echoes' behind allowed _
      (Nat.lt_of_lt_of_le shorter' (Nat.le_of_lt_succ hd)) echo.next
    refine ⟨List.append_eq_nil_iff.2 ⟨echo.errors, echo'.errors⟩, ?_, echo'.next⟩
    show bareOf id ((p' d hd).out ++ _) = bareOf spell ((p c h).out ++ _)
    rw [Tree.bareOf_append, Tree.bareOf_append, echo.out, echo'.out]

end Parser

end ScriptLint
