import ScriptLint.Proofs.Source.Boundaries
import ScriptLint.Proofs.Syntax.Mirrors
import ScriptLint.Proofs.Syntax.Plain

/-!
# Trees up to white space

What is left of a tree without its white space (`Tree.unspaced`) still has the comments. In a text that
parses no node but the program starts or ends with trivia (`Tree.Tight`), so the tokens around a
comment tell which node it belongs to: trees with the same tokens and comments in which the tokens
are put together alike are the same up to white space (`unspaced_parse`).
-/

namespace ScriptLint

open ScriptLint.Tree (lexemesOf)

namespace Lexeme

variable {l : Lexeme}

/-- Whether a lexeme is white space. -/
def isWhite (l : Lexeme) : Bool := l.kind == .whitespace

theorem isWhite_of_significant (significant : l.isTrivia = false) : l.isWhite = false := by
  refine beq_false_of_ne fun kind => ?_
  rw [isTrivia, kind] at significant
  cases significant

theorem isWhite_plain (l : Lexeme) : l.plain.isWhite = l.isWhite :=
  beq_kind_plain rfl l

theorem plain_of_trivia (trivia : l.isTrivia = true) : l.plain = l := by
  refine plain_of_not_word ?_
  rw [isTrivia] at trivia
  cases kind : l.kind <;> first | rfl | (rw [kind] at trivia; cases trivia)

/-- Lexemes are the same if they are up to which words their words are, and the significant ones are
the same. -/
theorem eq_of_map_plain {xs ys : List Lexeme} (same : xs.map plain = ys.map plain)
    (tokens : (xs.filter fun l => ! l.isTrivia) = ys.filter fun l => ! l.isTrivia) : xs = ys := by
  induction xs generalizing ys with
  | nil => exact (List.map_eq_nil_iff.1 same.symm).symm
  | cons x xs ih =>
    obtain _ | ⟨y, ys⟩ := ys
    · cases same
    obtain ⟨first, rest⟩ := List.cons.inj same
    have alike : x.isTrivia = y.isTrivia := by rw [← isTrivia_plain, first, isTrivia_plain]
    cases trivia : y.isTrivia with
    | true =>
      rw [trivia] at alike
      rw [plain_of_trivia alike, plain_of_trivia trivia] at first
      rw [List.filter_cons_of_neg (by simp [alike]), List.filter_cons_of_neg (by simp [trivia])]
        at tokens
      rw [first, ih rest tokens]
    | false =>
      rw [trivia] at alike
      rw [List.filter_cons_of_pos (by simp [alike]), List.filter_cons_of_pos (by simp [trivia])]
        at tokens
      obtain ⟨here, later⟩ := List.cons.inj tokens
      rw [here, ih rest later]

/-- Whether lexemes start and end with significant ones, and there are some. -/
def Framed (ls : List Lexeme) : Prop :=
  (∃ l rest, ls = l :: rest ∧ l.isTrivia = false) ∧ ∃ init l, ls = init ++ [l] ∧ l.isTrivia = false

/-- Two runs that a text starts with are one if they end with significant lexemes and have equally
many of them. -/
theorem Framed.eq_of_append {xs ys zs ws : List Lexeme} (framed : Framed xs) (framed' : Framed ys)
    (whole : xs ++ zs = ys ++ ws)
    (count : (xs.countP fun l => ! l.isTrivia) = ys.countP fun l => ! l.isTrivia) : xs = ys := by
  have none : ∀ {xs more : List Lexeme}, Framed (xs ++ more) →
      (xs.countP fun l => ! l.isTrivia) = (xs ++ more).countP (fun l => ! l.isTrivia) →
      more = [] := by
    rintro xs more ⟨-, init, l, ends, significant⟩ count
    rw [List.countP_append] at count
    have trivia : more.countP (fun l => ! l.isTrivia) = 0 := by omega
    obtain rfl | ⟨init', last, rfl⟩ := more.eq_nil_or_concat'
    · rfl
    · rw [← List.append_assoc] at ends
      obtain ⟨-, rfl⟩ := List.append_inj' ends rfl |>.imp_right List.singleton_inj.1
      have := List.countP_eq_zero.1 trivia last (by simp)
      simp [significant] at this
  rcases List.append_eq_append_iff.1 whole with ⟨more, rfl, -⟩ | ⟨more, rfl, -⟩
  · rw [none framed' count, List.append_nil]
  · rw [none framed count.symm, List.append_nil]

/-- Without their white space, lexemes start and end as they do with it. -/
theorem Framed.filter_isWhite {ls : List Lexeme} (framed : Framed ls) :
    Framed (ls.filter fun l => ! l.isWhite) := by
  obtain ⟨⟨l, rest, starts, first⟩, init, l', ends, last⟩ := framed
  refine ⟨⟨l, rest.filter fun l => ! l.isWhite, ?_, first⟩, init.filter fun l => ! l.isWhite, l', ?_,
    last⟩
  · rw [starts, List.filter_cons_of_pos (by simp [isWhite_of_significant first])]
  · rw [ends, List.filter_append, List.filter_cons_of_pos (by simp [isWhite_of_significant last])]
    rfl

end Lexeme

namespace Tree

open Lexeme (Framed)

mutual
/-- What is left of a tree without its white space. -/
def unspaced : Tree → List Tree
  | .token kind text => if kind = .whitespace then [] else [.token kind text]
  | .node kind children => [.node kind (unspacedOf children)]

def unspacedOf : List Tree → List Tree
  | [] => []
  | t :: ts => unspaced t ++ unspacedOf ts
end

mutual
theorem lexemesOf_unspaced (t : Tree) :
    lexemesOf (unspaced t) = t.lexemes.filter fun l => ! l.isWhite := by
  cases t with
  | token kind text =>
    by_cases white : kind = .whitespace <;> simp [unspaced, lexemes, Lexeme.isWhite, white]
  | node kind children => rw [unspaced, lexemesOf_node, lexemes, lexemesOf_unspacedOf children]

theorem lexemesOf_unspacedOf (ts : List Tree) :
    lexemesOf (unspacedOf ts) = (lexemesOf ts).filter fun l => ! l.isWhite := by
  cases ts with
  | nil => rfl
  | cons t ts =>
    rw [unspacedOf, lexemesOf_append, lexemesOf_unspaced t, lexemesOf_unspacedOf ts, lexemesOf,
      List.filter_append]
end

mutual
theorem bareOf_unspaced (t : Tree) : bareOf id (unspaced t) = bare id t := by
  cases t with
  | token kind text =>
    by_cases white : kind = .whitespace
    · subst white
      rfl
    · rw [unspaced, if_neg white, bareOf, bareOf_nil, List.append_nil]
  | node kind children => rw [unspaced, bareOf_node, bare, bareOf_unspacedOf children]

theorem bareOf_unspacedOf (ts : List Tree) : bareOf id (unspacedOf ts) = bareOf id ts := by
  cases ts with
  | nil => rfl
  | cons t ts => rw [unspacedOf, bareOf_append, bareOf_unspaced t, bareOf_unspacedOf ts, bareOf]
end

/-- Whether all nodes of a tree start and end with significant tokens. -/
inductive Tight : Tree → Prop where
  | token {kind : SyntaxKind} {text : Text} : Tight (.token kind text)
  | node {kind : SyntaxKind} {children : List Tree} (framed : Framed (lexemesOf children))
      (tight : ∀ t ∈ children, Tight t) : Tight (.node kind children)

/-- A tree that is derived and has no node that starts with trivia. -/
theorem Derived.tight {t : Tree} (derived : t.Derived) (opened : t.Opened) : t.Tight := by
  induction derived with
  | token => exact .token
  | @node kind children inner content closed derived ih =>
    have plain := SyntaxKind.isTrivia_of_isInner inner
    cases opened with
    | node fronted opened =>
      obtain ⟨init, last, ends, significant⟩ :=
        (Derived.node inner content closed derived).exists_last plain
      rw [lexemes] at ends
      refine .node ⟨?_, init, last, ends, significant⟩ fun t mem => ih t mem (opened t mem)
      obtain ⟨first, rest, starts⟩ := List.exists_cons_of_ne_nil (l := lexemesOf children) (by simp [ends])
      exact ⟨first, rest, starts, fronted first (by simp [starts])⟩

theorem tight_unspacedOf {ts : List Tree} (each : ∀ t ∈ ts, ∀ u ∈ t.unspaced, u.Tight) :
    ∀ u ∈ unspacedOf ts, u.Tight := by
  induction ts with
  | nil => exact fun u mem => (List.not_mem_nil mem).elim
  | cons t ts ih =>
    intro u mem
    rcases List.mem_append.1 mem with here | later
    · exact each t List.mem_cons_self u here
    · exact ih (fun t among => each t (List.mem_cons_of_mem _ among)) u later

theorem Tight.unspaced {t : Tree} (tight : t.Tight) : ∀ u ∈ t.unspaced, u.Tight := by
  induction tight with
  | @token kind text =>
    intro u mem
    rw [Tree.unspaced] at mem
    split at mem
    · cases mem
    · exact List.mem_singleton.1 mem ▸ .token
  | @node kind children framed tight ih =>
    intro u mem
    obtain rfl := List.mem_singleton.1 mem
    exact .node (lexemesOf_unspacedOf children ▸ framed.filter_isWhite) (tight_unspacedOf ih)

theorem Tight.lexemes_ne_nil {t : Tree} (tight : t.Tight) : t.lexemes ≠ [] := by
  cases tight with
  | token => simp [lexemes]
  | node framed =>
    obtain ⟨⟨l, rest, starts, -⟩, -⟩ := framed
    simp [lexemes, starts]

/-- A node is no token, whatever comes behind them. -/
theorem node_ne_token {kind other : SyntaxKind} {children bs bs' : List Tree} {text : Text}
    {ls' : List Lexeme} (ls : List Lexeme) (framed : Framed (lexemesOf children))
    (lexemes : lexemesOf children ++ ls = ⟨other, text⟩ :: ls') :
    bare id (.node kind children) ++ bs ≠ bare id (.token other text) ++ bs' := by
  obtain ⟨⟨l, rest, starts, significant⟩, -⟩ := framed
  rw [starts] at lexemes
  obtain ⟨rfl, -⟩ := List.cons.inj lexemes
  have token : bare id (.token other text) = [.token other text] :=
    if_neg (Bool.eq_false_iff.1 significant)
  rw [token]
  intro same
  cases (List.cons.inj same).1

/-- Trees that start alike are the same without trivia, and have the same lexemes. -/
theorem Tight.cut {t u : Tree} {bs bs' : List Tree} {ls ls' : List Lexeme} (tight : t.Tight)
    (tight' : u.Tight) (same : bare id t ++ bs = bare id u ++ bs')
    (lexemes : t.lexemes ++ ls = u.lexemes ++ ls') : bare id t = bare id u ∧ t.lexemes = u.lexemes := by
  cases tight with
  | @token kind text =>
    cases tight' with
    | token =>
      obtain ⟨here, -⟩ := List.cons.inj lexemes
      cases here
      exact ⟨rfl, rfl⟩
    | node framed => exact absurd same.symm (node_ne_token _ framed lexemes.symm)
  | @node kind children framed =>
    cases tight' with
    | token => exact absurd same (node_ne_token _ framed lexemes)
    | @node kind' children' framed' =>
      obtain ⟨here, -⟩ := List.cons.inj same
      have inside : bareOf id children = bareOf id children' := by injection here
      -- a node ends with a significant token, so how many of them it has tells where it ends
      have tokens := congrArg List.length (congrArg lexemesOf inside)
      simp only [lexemesOf_bareOf, List.map_id, ← List.countP_eq_length_filter] at tokens
      exact ⟨congrArg (· :: []) here, framed.eq_of_append framed' lexemes tokens⟩

/-- Whether a tree is told by its tokens without trivia and by its lexemes. -/
def Determined (t : Tree) : Prop :=
  ∀ u : Tree, u.Tight → bare id t = bare id u → t.lexemes = u.lexemes → t = u

theorem eq_of_bareOf {ts us : List Tree} (tight : ∀ t ∈ ts, t.Tight) (tight' : ∀ u ∈ us, u.Tight)
    (determined : ∀ t ∈ ts, t.Determined) (same : bareOf id ts = bareOf id us)
    (lexemes : lexemesOf ts = lexemesOf us) : ts = us := by
  induction ts generalizing us with
  | nil =>
    cases us with
    | nil => rfl
    | cons u us =>
      exact absurd (List.append_eq_nil_iff.1 lexemes.symm).1
        (tight' u List.mem_cons_self).lexemes_ne_nil
  | cons t ts ih =>
    cases us with
    | nil =>
      exact absurd (List.append_eq_nil_iff.1 lexemes).1 (tight t List.mem_cons_self).lexemes_ne_nil
    | cons u us =>
      have tightU := tight' u List.mem_cons_self
      obtain ⟨bare, own⟩ := (tight t List.mem_cons_self).cut tightU same lexemes
      rw [bareOf, bareOf, bare] at same
      rw [lexemesOf, lexemesOf, own] at lexemes
      rw [determined t List.mem_cons_self u tightU bare own,
        ih (fun t mem => tight t (List.mem_cons_of_mem _ mem))
          (fun u mem => tight' u (List.mem_cons_of_mem _ mem))
          (fun t mem => determined t (List.mem_cons_of_mem _ mem)) (List.append_cancel_left same)
          (List.append_cancel_left lexemes)]

theorem Tight.determined {t : Tree} (tight : t.Tight) : t.Determined := by
  induction tight with
  | token =>
    intro u tight same lexemes
    cases tight with
    | token =>
      cases (List.cons.inj lexemes).1
      rfl
    | node framed =>
      have same := congrArg (· ++ []) same
      exact absurd same.symm (node_ne_token [] framed (by simpa [Tree.lexemes] using lexemes.symm))
  | node framed tight ih =>
    intro u tight' same lexemes
    cases tight' with
    | token =>
      have same := congrArg (· ++ []) same
      exact absurd same (node_ne_token [] framed (by simpa [Tree.lexemes] using lexemes))
    | node framed' inner =>
      injection (List.cons.inj same).1 with kind children
      rw [kind, eq_of_bareOf tight inner ih children lexemes]

/-- Trees without white space are told by their tokens without trivia and by their lexemes. -/
theorem unspacedOf_eq {ts us : List Tree} (tight : ∀ t ∈ ts, t.Tight) (tight' : ∀ u ∈ us, u.Tight)
    (same : bareOf id ts = bareOf id us)
    (lexemes : (lexemesOf ts).filter (fun l => ! l.isWhite) =
      (lexemesOf us).filter fun l => ! l.isWhite) : unspacedOf ts = unspacedOf us := by
  have kept := tight_unspacedOf fun t mem => (tight t mem).unspaced
  have kept' := tight_unspacedOf fun u mem => (tight' u mem).unspaced
  refine eq_of_bareOf kept kept' (fun t mem => (kept t mem).determined) ?_ ?_
  · rw [bareOf_unspacedOf, bareOf_unspacedOf, same]
  · rw [lexemesOf_unspacedOf, lexemesOf_unspacedOf, lexemes]

end Tree

theorem tight_programBody {ls : List Lexeme} (errors : (programBody ls).errors = []) :
    ∀ t ∈ (programBody ls).out, t.Tight :=
  fun t mem => (derived_programBody errors t mem).tight (opened_programBody ls t mem)

/-- Texts that parse into trees that are the same up to trivia, and have the same lexemes but for white
space, parse into trees that are the same up to white space. -/
theorem unspaced_parse {text text' : Text} (parses : (parse text).errors = [])
    (parses' : (parse text').errors = [])
    (same : Tree.bare id (parse text).tree = Tree.bare id (parse text').tree)
    (lexemes : (lex text).lexemes.filter (fun l => ! l.isWhite) =
      (lex text').lexemes.filter fun l => ! l.isWhite) :
    Tree.unspaced (parse text).tree = Tree.unspaced (parse text').tree := by
  have inside : Tree.bareOf id (programBody (lex text).lexemes).out =
      Tree.bareOf id (programBody (lex text').lexemes).out := by
    injection (List.cons.inj same).1
  have own (text : Text) : ((lexemesOf (programBody (lex text).lexemes).out).filter fun l =>
      ! l.isWhite).map Lexeme.plain =
        ((lex text).lexemes.filter fun l => ! l.isWhite).map Lexeme.plain := by
    have white : (fun l : Lexeme => ! l.isWhite) = (fun l => ! l.isWhite) ∘ Lexeme.plain :=
      funext fun l => by simp [Lexeme.isWhite_plain]
    rw [white, ← List.filter_map, ← List.filter_map, map_plain_parse]
  have tokens (text : Text) : ((lexemesOf (programBody (lex text).lexemes).out).filter fun l =>
      ! l.isWhite).filter (fun l => ! l.isTrivia) =
        lexemesOf (Tree.bareOf id (programBody (lex text).lexemes).out) := by
    rw [Tree.lexemesOf_bareOf, List.map_id, List.filter_filter]
    refine List.filter_congr fun l _ => ?_
    cases trivia : l.isTrivia with
    | true => simp
    | false => simp [Lexeme.isWhite_of_significant trivia]
  have equal := Lexeme.eq_of_map_plain ((own text).trans (lexemes ▸ (own text').symm))
    ((tokens text).trans (inside ▸ (tokens text').symm))
  exact congrArg (fun ts => [Tree.node .program ts]) (Tree.unspacedOf_eq
    (tight_programBody (errors_parse.1 parses).2) (tight_programBody (errors_parse.1 parses').2)
    inside equal)

end ScriptLint
