import ScriptLint.Proofs.Source.Boundaries

/-!
# Neighbours in the token stream

In a text without errors, what a source answers about the tokens and comments around its nodes and
tokens can be read off the token stream of the text (`source_agrees`). The tree has no empty node then,
unless it has nothing else, so its leaves are its tokens and no search among them ends early.
-/

namespace ScriptLint

open TokenStream

variable {earlier later ts us : List Token} {p : Place} {t : Token}

namespace Place

/-- Whether a place is that of a token of a stream, between the others. -/
def IsIn (p : Place) (ts : List Token) : Prop :=
  ∃ earlier later, ts = earlier ++ p.token :: later ∧
    p.before = (earlier.map Leaf.token).reverse ∧ p.after = later.map Leaf.token

/-- Going back, the last significant token is found. -/
theorem backFrom_tokens (earlier later : List Token) :
    (backFrom (earlier.map Leaf.token).reverse (later.map Leaf.token)).map Place.token =
        (significant earlier).getLast? ∧
      ∀ p ∈ backFrom (earlier.map Leaf.token).reverse (later.map Leaf.token),
        p.IsIn (earlier ++ later) := by
  induction earlier using List.reverseRecOn generalizing later with
  | nil => simp [backFrom, significant]
  | append_singleton earlier t ih =>
    rw [List.map_append, List.reverse_append]
    simp only [List.map_cons, List.map_nil, List.reverse_singleton, List.singleton_append, backFrom]
    split
    · rename_i trivia
      have rest := ih (t :: later)
      simpa [significant, trivia] using rest
    · rename_i plain
      constructor
      · simp [significant, plain]
      · rintro p ⟨⟩
        exact ⟨earlier, later, by simp, rfl, rfl⟩

/-- Going on, the first significant token is found. -/
theorem onFrom_tokens (earlier later : List Token) :
    (onFrom (earlier.map Leaf.token).reverse (later.map Leaf.token)).map Place.token =
        (significant later).head? ∧
      ∀ p ∈ onFrom (earlier.map Leaf.token).reverse (later.map Leaf.token),
        p.IsIn (earlier ++ later) := by
  induction later generalizing earlier with
  | nil => simp [onFrom, significant]
  | cons t later ih =>
    simp only [List.map_cons, onFrom]
    split
    · rename_i trivia
      have rest := ih (earlier ++ [t])
      simpa [significant, trivia] using rest
    · rename_i plain
      constructor
      · simp [significant, plain]
      · rintro p ⟨⟩
        exact ⟨earlier, later, rfl, rfl, rfl⟩

/-- The first significant token of a run is found in front of what lies behind the run. -/
theorem firstOf_tokens (earlier inner later : List Token) :
    (firstOf (earlier.map Leaf.token).reverse (inner.map Leaf.token) (later.map Leaf.token)).map
        Place.token = (significant inner).head? ∧
      ∀ p ∈ firstOf (earlier.map Leaf.token).reverse (inner.map Leaf.token) (later.map Leaf.token),
        p.IsIn (earlier ++ inner ++ later) := by
  induction inner generalizing earlier with
  | nil => simp [firstOf, significant]
  | cons t inner ih =>
    simp only [List.map_cons, firstOf]
    split
    · rename_i trivia
      have rest := ih (earlier ++ [t])
      simpa [significant, trivia] using rest
    · rename_i plain
      constructor
      · simp [significant, plain]
      · rintro p ⟨⟩
        exact ⟨earlier, inner ++ later, by simp, rfl, by simp⟩

theorem isIn_ofLeaves (earlier inner later : List Token) :
    (ofLeaves (earlier.map Leaf.token).reverse (inner.map Leaf.token) (later.map Leaf.token)).map
        Place.token = inner ∧
      ∀ p ∈ ofLeaves (earlier.map Leaf.token).reverse (inner.map Leaf.token)
        (later.map Leaf.token), p.IsIn (earlier ++ inner ++ later) := by
  induction inner generalizing earlier with
  | nil => simp [ofLeaves]
  | cons t inner ih =>
    have rest := ih (earlier ++ [t])
    simp only [List.map_append, List.map_cons, List.map_nil, List.reverse_append,
      List.reverse_singleton, List.singleton_append, List.append_assoc] at rest
    simp only [List.map_cons, ofLeaves, rest.1, List.mem_cons, true_and]
    rintro p (rfl | later)
    · exact ⟨earlier, inner ++ later, by simp, rfl, by simp⟩
    · simpa using rest.2 p later

theorem triviaRun_tokens (ts : List Token) :
    triviaRun (ts.map Leaf.token) = ts.takeWhile Token.isTrivia := by
  have same : Leaf.isTrivia ∘ Leaf.token = Token.isTrivia := by
    funext t
    simp [Leaf.isTrivia, Leaf.token?]
  simp [triviaRun, List.takeWhile_map, same, List.filterMap_map, Function.comp_def, Leaf.token?]

end Place

namespace TokenStream

theorem significant_eq_nil (trivia : ∀ t ∈ ts, t.isTrivia = true) : significant ts = [] :=
  List.filter_eq_nil_iff.2 fun t mem => by simp [trivia t mem]

/-- A stream has no significant token, or a last one with trivia behind it. -/
theorem parted_last (ts : List Token) : (∀ t ∈ ts, t.isTrivia = true) ∨
    ∃ earlier f gap, ts = earlier ++ f :: gap ∧ f.isTrivia = false ∧
      ∀ t ∈ gap, t.isTrivia = true := by
  induction ts with
  | nil => exact .inl (by simp)
  | cons t ts ih =>
    rcases ih with trivia | ⟨earlier, f, gap, rfl, plain, trivia⟩
    · cases first : t.isTrivia with
      | true => exact .inl (List.forall_mem_cons.2 ⟨first, trivia⟩)
      | false => exact .inr ⟨[], t, ts, rfl, first, trivia⟩
    · exact .inr ⟨t :: earlier, f, gap, rfl, plain, trivia⟩

/-- A stream has no significant token, or a first one with trivia before it. -/
theorem parted_first (ts : List Token) : (∀ t ∈ ts, t.isTrivia = true) ∨
    ∃ gap f later, ts = gap ++ f :: later ∧ f.isTrivia = false ∧ ∀ t ∈ gap, t.isTrivia = true := by
  rcases parted_last ts.reverse with trivia | ⟨later, f, gap, eq, plain, trivia⟩
  · exact .inl fun t mem => trivia t (List.mem_reverse.2 mem)
  · refine .inr ⟨gap.reverse, f, later.reverse, ?_, plain, fun t mem => ?_⟩
    · rw [← List.reverse_reverse ts, eq]
      simp
    · exact trivia t (List.mem_reverse.1 mem)

theorem isComment_eq_false (plain : t.isTrivia = false) : t.isComment = false := by
  by_contra comment
  rw [Bool.not_eq_false] at comment
  rw [Token.isTrivia_of_isComment comment] at plain
  cases plain

/-- The comments behind the last significant token are those among the trivia at the end. -/
theorem comments_at_end (ordered : Ordered ts) :
    (ts.filter fun c => c.isComment && (significant ts).getLast?.all fun p => p.stop ≤ c.start) =
      ((ts.reverse.takeWhile Token.isTrivia).filter Token.isComment).reverse := by
  rcases parted_last ts with trivia | ⟨earlier, f, gap, rfl, plain, trivia⟩
  · have all : ts.reverse.takeWhile Token.isTrivia = ts.reverse :=
      List.takeWhile_eq_self_iff.2 fun t mem => trivia t (List.mem_reverse.1 mem)
    rw [significant_eq_nil trivia, all, List.filter_reverse, List.reverse_reverse]
    simp
  · have last : (significant (earlier ++ f :: gap)).getLast? = some f := by
      have none : gap.filter (fun t => ! t.isTrivia) = [] := significant_eq_nil trivia
      simp [significant, plain, none]
    have run : (earlier ++ f :: gap).reverse.takeWhile Token.isTrivia = gap.reverse := by
      rw [List.reverse_append, List.reverse_cons, List.append_assoc,
        List.takeWhile_append_of_pos fun t mem => trivia t (List.mem_reverse.1 mem)]
      simp [plain]
    have before : earlier.filter (fun c => c.isComment && decide (f.stop ≤ c.start)) = [] := by
      refine List.filter_eq_nil_iff.2 fun c mem => ?_
      have apart := ordered.before c mem
      have filled := ordered.filled c (List.mem_append_left _ mem)
      have here := ordered.filled f (by simp)
      simp only [Bool.and_eq_true, decide_eq_true_eq]
      omega
    have behind : gap.filter (fun c => c.isComment && decide (f.stop ≤ c.start)) =
        gap.filter Token.isComment :=
      List.filter_congr fun c mem => by simp [ordered.behind c mem]
    rw [last, run, List.filter_reverse, List.reverse_reverse, List.filter_append]
    simp only [Option.all_some, List.filter_cons, isComment_eq_false plain, Bool.false_and,
      Bool.false_eq_true, if_false, before, behind, List.nil_append]

/-- The comments before the first significant token are those among the trivia at the start. -/
theorem comments_at_start (ordered : Ordered ts) :
    (ts.filter fun c => c.isComment && (significant ts).head?.all fun f => c.stop ≤ f.start) =
      (ts.takeWhile Token.isTrivia).filter Token.isComment := by
  rcases parted_first ts with trivia | ⟨gap, f, later, rfl, plain, trivia⟩
  · rw [significant_eq_nil trivia, List.takeWhile_eq_self_iff.2 trivia]
    simp
  · have first : (significant (gap ++ f :: later)).head? = some f := by
      have none : gap.filter (fun t => ! t.isTrivia) = [] := significant_eq_nil trivia
      simp [significant, plain, none]
    have run : (gap ++ f :: later).takeWhile Token.isTrivia = gap := by
      rw [List.takeWhile_append_of_pos trivia]
      simp [plain]
    have before : gap.filter (fun c => c.isComment && decide (c.stop ≤ f.start)) =
        gap.filter Token.isComment :=
      List.filter_congr fun c mem => by simp [ordered.before c mem]
    have behind : later.filter (fun c => c.isComment && decide (c.stop ≤ f.start)) = [] := by
      refine List.filter_eq_nil_iff.2 fun c mem => ?_
      have apart := ordered.behind c mem
      have filled := ordered.filled c (by simp [mem])
      have here := ordered.filled f (by simp)
      simp only [Bool.and_eq_true, decide_eq_true_eq]
      omega
    rw [first, run, List.filter_append]
    simp only [Option.all_some, List.filter_cons, isComment_eq_false plain, Bool.false_and,
      Bool.false_eq_true, if_false, before, behind, List.append_nil]

end TokenStream

namespace Place.IsIn

variable (ordered : Ordered ts) (isIn : p.IsIn ts)
include ordered isIn

theorem token_before : p.significantBefore?.map Place.token = previous? p.token ts ∧
    ∀ q ∈ p.significantBefore?, q.IsIn ts := by
  obtain ⟨earlier, later, rfl, before, after⟩ := isIn
  have found := backFrom_tokens earlier (p.token :: later)
  rw [previous?, endingBy_start ordered, significantBefore?, before, after]
  exact found

theorem token_after : p.significantAfter?.map Place.token = following? p.token ts ∧
    ∀ q ∈ p.significantAfter?, q.IsIn ts := by
  obtain ⟨earlier, later, rfl, before, after⟩ := isIn
  have found := onFrom_tokens (earlier ++ [p.token]) later
  rw [following?, startingFrom_stop ordered, significantAfter?, before, after]
  simpa using found

theorem comments_before : p.commentsBefore = TokenStream.commentsBefore p.token ts := by
  obtain ⟨earlier, later, rfl, before, after⟩ := isIn
  rw [TokenStream.commentsBefore, previous?, endingBy_start ordered, comments_at_end ordered.left,
    Place.commentsBefore, before, ← List.map_reverse, triviaRun_tokens]

theorem comments_after : p.commentsAfter = TokenStream.commentsBehind p.token ts := by
  obtain ⟨earlier, later, rfl, before, after⟩ := isIn
  have rest : Ordered later := by
    rw [List.append_cons] at ordered
    exact ordered.right
  rw [TokenStream.commentsBehind, following?, startingFrom_stop ordered, comments_at_start rest,
    Place.commentsAfter, after, triviaRun_tokens]

end Place.IsIn

namespace Site

variable {s : Site}

/-- Whether a node is that of a run of tokens in a stream, between the others. -/
def IsIn (s : Site) (ts : List Token) : Prop :=
  ∃ earlier inner later, ts = earlier ++ inner ++ later ∧ TokenStream.inside s.span ts = inner ∧
    s.before = (earlier.map Leaf.token).reverse ∧ s.inside = inner.map Leaf.token ∧
    s.after = later.map Leaf.token ∧ ∀ t ∈ earlier, t.stop ≤ s.start

theorem IsIn.token_first (isIn : s.IsIn ts) :
    s.firstToken?.map Place.token = firstIn? s.span ts ∧ ∀ p ∈ s.firstToken?, p.IsIn ts := by
  obtain ⟨earlier, inner, later, rfl, within, before, run, after, -⟩ := isIn
  have found := Place.firstOf_tokens earlier inner later
  rw [firstIn?, within, firstToken?, before, run, after]
  exact found

/-- Going back from the end of a node, the last token is found that is not behind it. It belongs to
the node if it does not lie before it. -/
theorem IsIn.token_last (ordered : Ordered ts) (isIn : s.IsIn ts) :
    s.lastToken?.map Place.token = lastIn? s.span ts ∧ ∀ p ∈ s.lastToken?, p.IsIn ts := by
  obtain ⟨earlier, inner, later, rfl, within, before, run, after, ends⟩ := isIn
  obtain ⟨token, isIn⟩ := Place.backFrom_tokens (earlier ++ inner) later
  have leaves : s.inside.reverse ++ s.before = ((earlier ++ inner).map Leaf.token).reverse := by
    rw [before, run]
    simp
  rw [lastIn?, within, lastToken?, leaves, after]
  refine ⟨?_, fun p mem => isIn p (Option.mem_filter_iff.1 mem).1⟩
  rw [significant_append, List.getLast?_append] at token
  cases found : Place.backFrom ((earlier ++ inner).map Leaf.token).reverse (later.map Leaf.token) with
  | none =>
    rw [found, Option.map_none, eq_comm, Option.or_eq_none_iff] at token
    rw [token.1]
    rfl
  | some p =>
    rw [found, Option.map_some] at token
    cases last : (significant inner).getLast? with
    | some t =>
      rw [last, Option.some_or, Option.some.injEq] at token
      have among : t ∈ TokenStream.inside s.span (earlier ++ inner ++ later) := by
        rw [within]
        exact List.mem_of_mem_filter (List.mem_of_getLast? last)
      have bounds := (List.mem_filter.1 among).2
      simp only [Bool.and_eq_true, decide_eq_true_eq] at bounds
      have starts : s.start ≤ p.token.start := token ▸ bounds.1
      rw [Option.filter_some, if_pos (decide_eq_true starts), Option.map_some, token]
    | none =>
      rw [last, Option.none_or] at token
      have among : p.token ∈ earlier := List.mem_of_mem_filter (List.mem_of_getLast? token.symm)
      have stop := ends p.token among
      have filled := ordered.left.left.filled p.token among
      have starts : ¬ s.start ≤ p.token.start := by omega
      rw [Option.filter_some, if_neg (by simpa using starts)]
      rfl

end Site

/-- Whether what a source answers about a node is what its stream has in the span of the node and
around it, up to which words its words are. -/
structure Site.Agrees (s : Site) (ts : List Token) : Prop where
  first : s.firstToken?.map (·.token.plain) = (firstIn? s.span ts).map Token.plain
  last : s.lastToken?.map (·.token.plain) = (lastIn? s.span ts).map Token.plain
  before : s.tokenBefore?.map (·.token.plain) =
    ((firstIn? s.span ts).bind (previous? · ts)).map Token.plain
  after : s.tokenAfter?.map (·.token.plain) =
    ((lastIn? s.span ts).bind (following? · ts)).map Token.plain
  commentsBefore : s.commentsBefore =
    ((firstIn? s.span ts).map (TokenStream.commentsBefore · ts)).getD []
  commentsAfter : s.commentsAfter = ((lastIn? s.span ts).map (commentsBehind · ts)).getD []

/-- Whether the tokens that a source finds next to one are its neighbours in the stream. -/
structure Place.Agrees (p : Place) (ts : List Token) : Prop where
  before : p.significantBefore?.map (·.token.plain) = (previous? p.token ts).map Token.plain
  after : p.significantAfter?.map (·.token.plain) = (following? p.token ts).map Token.plain

theorem Place.IsIn.agrees (ordered : Ordered ts) (isIn : p.IsIn ts) : p.Agrees ts := by
  constructor
  · rw [← (isIn.token_before ordered).1, Option.map_map]
    rfl
  · rw [← (isIn.token_after ordered).1, Option.map_map]
    rfl

/-- A token that is found leads on to its neighbour. -/
theorem bind_agrees {found : Option Place} {next : Place → Option Place}
    {neighbour : Token → Option Token}
    (agrees : ∀ p ∈ found, (next p).map Place.token = neighbour p.token) :
    (found.bind next).map (·.token.plain) =
      ((found.map Place.token).bind neighbour).map Token.plain := by
  cases found with
  | none => rfl
  | some p =>
    rw [Option.map_some, Option.bind_some, Option.bind_some, ← agrees p rfl, Option.map_map]
    rfl

theorem Site.IsIn.agrees {s : Site} (ordered : Ordered ts) (isIn : s.IsIn ts) : s.Agrees ts := by
  obtain ⟨first, firstIn⟩ := isIn.token_first
  obtain ⟨last, lastIn⟩ := isIn.token_last ordered
  constructor
  · rw [← first, Option.map_map]
    rfl
  · rw [← last, Option.map_map]
    rfl
  · rw [← first]
    exact bind_agrees fun p found => ((firstIn p found).token_before ordered).1
  · rw [← last]
    exact bind_agrees fun p found => ((lastIn p found).token_after ordered).1
  · rw [← first, Option.map_map, Site.commentsBefore]
    congr 1
    exact Option.map_congr fun p found => (firstIn p found).comments_before ordered
  · rw [← last, Option.map_map, Site.commentsAfter]
    congr 1
    exact Option.map_congr fun p found => (lastIn p found).comments_after ordered

/-- What is the same of tokens that are the same up to words is the same of tokens that were found. -/
theorem map_congr_plain {β : Type} {o o' : Option Token} {f g : Token → β}
    (first : o.map Token.plain = o'.map Token.plain)
    (second : ∀ t u : Token, t.plain = u.plain → f t = g u) : o.map f = o'.map g := by
  cases o with
  | none =>
    cases o' with
    | none => rfl
    | some u => cases first
  | some t =>
    cases o' with
    | none => cases first
    | some u => exact congrArg some (second t u (Option.some.inj first))

theorem bind_congr_plain {o o' : Option Token} {f g : Token → Option Token}
    (first : o.map Token.plain = o'.map Token.plain)
    (second : ∀ t u : Token, t.plain = u.plain → (f t).map Token.plain = (g u).map Token.plain) :
    (o.bind f).map Token.plain = (o'.bind g).map Token.plain := by
  have found : ∀ (o : Option Token) (f : Token → Option Token),
      (o.bind f).map Token.plain = (o.map fun t => (f t).map Token.plain).getD none := by
    intro o f
    cases o <;> rfl
  rw [found, found, map_congr_plain first second]

section
variable (same : ts.map Token.plain = us.map Token.plain)
include same

theorem Place.Agrees.congr (agrees : p.Agrees ts) : p.Agrees us := by
  constructor
  · rw [agrees.before, previous?_congr same rfl]
  · rw [agrees.after, following?_congr same rfl]

theorem Site.Agrees.congr {s : Site} (agrees : s.Agrees ts) : s.Agrees us := by
  have first := firstIn?_congr same s.span
  have last := lastIn?_congr same s.span
  constructor
  · rw [agrees.first, first]
  · rw [agrees.last, last]
  · rw [agrees.before]
    exact bind_congr_plain first fun _ _ => previous?_congr same
  · rw [agrees.after]
    exact bind_congr_plain last fun _ _ => following?_congr same
  · rw [agrees.commentsBefore, map_congr_plain first fun _ _ => commentsBefore_congr same]
  · rw [agrees.commentsAfter, map_congr_plain last fun _ _ => commentsBehind_congr same]

end

/-- A text without tokens is an empty program. -/
theorem Source.ofText_of_none {text : Text} (none : (programBody (lex text).lexemes).out = []) :
    Source.ofText text = ⟨text, .node .program []⟩ :=
  congrArg (fun ts => Source.mk text (.node .program ts)) none

section
variable {text : Text} (clean : (parse text).errors = [])
include clean

/-- In the tree of a text without errors, only the program may be empty. -/
theorem solid_of_some (some : (programBody (lex text).lexemes).out ≠ []) :
    Tree.Solid (parse text).tree.parts := by
  intro kind mem
  rcases List.mem_cons.1 mem with root | below
  · injection root with _ empty
    exact some empty.symm
  · obtain ⟨t, among, part⟩ := Tree.mem_partsOf.1 below
    exact ((derived_programBody (errors_parse.1 clean).2 t among).of_mem_parts
      part).children_ne_nil rfl

theorem isIn_of_mem_sites (some : (programBody (lex text).lexemes).out ≠ []) {s : Site}
    (mem : s ∈ (Source.ofText text).sites) : s.IsIn (TokenStream.ofTree (parse text).tree) := by
  obtain ⟨-, read, rest, splits, starts, around⟩ := Source.liesIn_of_mem_sites mem
  obtain ⟨before, run, after⟩ := around (solid_of_some clean some)
  have splits : (parse text).tree.lexemes = read ++ Tree.lexemesOf s.children ++ rest := splits
  have size : 0 + Text.size (Lexeme.join (read ++ Tree.lexemesOf s.children)) = s.stop := by
    rw [Site.LiesIn.stop_eq, starts, Lexeme.size_join_append, Nat.add_assoc]
  refine ⟨Lexeme.tokensFrom 0 read, _, Lexeme.tokensFrom s.stop rest, ?_, inside_ofTree mem, ?_, run,
    ?_, fun t mem => ?_⟩
  · rw [TokenStream.ofTree, splits, Lexeme.tokensFrom_append, Lexeme.tokensFrom_append, size, ← starts]
  · rw [before, List.append_nil]
    rfl
  · rw [after, List.append_nil]
    rfl
  · rw [starts]
    exact (bounds_of_mem_tokensFrom mem).2

theorem agrees_of_mem_sites {s : Site} (mem : s ∈ (Source.ofText text).sites) :
    s.Agrees (TokenStream.ofText text) := by
  refine Site.Agrees.congr (map_plain_ofTree text) ?_
  by_cases none : (programBody (lex text).lexemes).out = []
  · have empty := Source.ofText_of_none none
    have root : s = ⟨.program, [], 0, [], []⟩ := by
      simpa [empty, Source.sites, Tree.walk, Tree.walkFrom, Tree.walkAll] using mem
    have tree : (parse text).tree = .node .program [] := congrArg Source.tree empty
    rw [root, tree]
    constructor <;> rfl
  · exact (isIn_of_mem_sites clean none mem).agrees (ordered_ofTree text)

/-- The places of a source are its tokens, each between the others. -/
theorem isIn_of_places :
    (Source.ofText text).places.map Place.token = TokenStream.ofTree (parse text).tree ∧
      ∀ p ∈ (Source.ofText text).places, p.IsIn (TokenStream.ofTree (parse text).tree) := by
  by_cases none : (programBody (lex text).lexemes).out = []
  · have empty := Source.ofText_of_none none
    have nothing : (Source.ofText text).places = [] := by
      rw [empty]
      rfl
    have tree : (parse text).tree = .node .program [] := congrArg Source.tree empty
    rw [nothing, tree]
    exact ⟨rfl, by simp⟩
  · have leaves : (Source.ofText text).leaves =
        (TokenStream.ofTree (parse text).tree).map Leaf.token :=
      Tree.leaves_of_solid _ (solid_of_some clean none) 0
    rw [Source.places, leaves]
    have found := Place.isIn_ofLeaves [] (TokenStream.ofTree (parse text).tree) []
    rwa [List.nil_append, List.append_nil] at found

theorem places_agree : (Source.ofText text).places.map (·.token.plain) =
      (TokenStream.ofText text).map Token.plain ∧
    ∀ p ∈ (Source.ofText text).places, p.Agrees (TokenStream.ofText text) := by
  obtain ⟨tokens, isIn⟩ := isIn_of_places clean
  refine ⟨?_, fun p mem => ?_⟩
  · rw [← map_plain_ofTree, ← tokens, List.map_map]
    rfl
  · exact ((isIn p mem).agrees (ordered_ofTree text)).congr (map_plain_ofTree text)

end

/-- What a source answers agrees with the token stream of its text, if that has no errors. The places
of the source are its tokens. The tokens that are found first and last in a node, and those before and
behind these, are the first and last significant ones of the stream in the span of the node, and their
neighbours; the comments found are those of the stream between. The tokens found next to any token are
its neighbours. Where nothing is significant, nothing is found. -/
theorem source_agrees (text : Text) (clean : (parse text).errors = []) :
    (∀ s ∈ (Source.ofText text).sites, s.Agrees (TokenStream.ofText text)) ∧
      (Source.ofText text).places.map (·.token.plain) =
        (TokenStream.ofText text).map Token.plain ∧
      (∀ p ∈ (Source.ofText text).places, p.Agrees (TokenStream.ofText text)) ∧
      (significant (TokenStream.ofText text) = [] → ∀ s ∈ (Source.ofText text).sites,
        s.firstToken? = none ∧ s.lastToken? = none ∧ s.tokenBefore? = none ∧
        s.tokenAfter? = none ∧ s.commentsBefore = [] ∧ s.commentsAfter = []) := by
  obtain ⟨tokens, places⟩ := places_agree clean
  have sites := fun s => agrees_of_mem_sites clean (s := s)
  refine ⟨sites, tokens, places, fun nothing s mem => ?_⟩
  have none : significant (inside s.span (TokenStream.ofText text)) = [] := by
    rw [significant_inside, nothing]
    rfl
  have first := (sites s mem).first
  rw [firstIn?, none, List.head?_nil, Option.map_none, Option.map_eq_none_iff] at first
  have last := (sites s mem).last
  rw [lastIn?, none, List.getLast?_nil, Option.map_none, Option.map_eq_none_iff] at last
  simp [first, last, Site.tokenBefore?, Site.tokenAfter?, Site.commentsBefore, Site.commentsAfter]

/-- A comment between a name and its semicolon. -/
def annotatedText : Text := ['a', '/', '*', '*', '/', ' ', ';']

theorem source_agrees_annotatedText : (parse annotatedText).errors = [] ∧
    ∃ s ∈ (Source.ofText annotatedText).sites, s.kind = .identifier ∧
      s.Agrees (TokenStream.ofText annotatedText) := by
  have clean : (parse annotatedText).errors = [] := by decide +kernel
  have kinds : (Source.ofText annotatedText).sites.map Site.kind =
      [.program, .expressionStatement, .identifier] := by decide +kernel
  have among : SyntaxKind.identifier ∈ (Source.ofText annotatedText).sites.map Site.kind := by
    rw [kinds]
    decide
  obtain ⟨s, mem, kind⟩ := List.mem_map.1 among
  exact ⟨clean, s, mem, kind, (source_agrees annotatedText clean).1 s mem⟩

end ScriptLint
