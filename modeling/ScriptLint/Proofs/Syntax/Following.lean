import ScriptLint.Proofs.Syntax.Descent
import ScriptLint.Proofs.Syntax.Reading

/-!
# Following a parser

A routine of the descent follows a parser if it leads to the cursor, the trees and the errors of the
parser, and goes on from there (`Follows`). The routine may have been given a mark. The trees that
came in behind the mark are the trees that the parser was handed.

Each way to combine parsers is followed by its way to combine routines. A sequence of routines is
nested to the right, so what follows a part of it has to say what is left to be run.
-/

namespace ScriptLint

namespace Descent

variable {α β : Type} {m : Descent α} {s s' : DescentState} {a : α}

/-- A routine that ends leaves the rest to what is run after it. -/
theorem run_bind (ends : m s = (pure a : Descent α) s') (k : α → Descent β) :
    (m >>= k) s = k a s' := by
  show ExceptT.bind (m s) _ = _
  rw [ends]
  rfl

theorem run_eatTrivia (s : DescentState) :
    eatTrivia s = (pure () : Descent Unit)
      { s with
        cursor := s.cursor.pastTrivia
        builder := s.builder.grow (s.cursor.trivia.map Tree.ofLexeme) } := by
  have grown (ls : List Lexeme) (b : TreeBuilder) :
      ls.foldl (fun b l => b.token l.kind l.text) b = b.grow (ls.map Tree.ofLexeme) := by
    induction ls generalizing b with
    | nil => simp
    | cons l ls ih =>
      rw [List.foldl_cons, ih, TreeBuilder.token_eq_grow, TreeBuilder.grow_grow]
      rfl
  rw [← grown]
  rfl

theorem run_shift (offset : Nat) (l : Lexeme) (rest : List Lexeme) (b : TreeBuilder)
    (es : List SyntaxError) (kind : SyntaxKind) :
    shift kind ⟨⟨offset, l :: rest⟩, b, es⟩ = (pure () : Descent Unit)
      ⟨⟨offset + l.size, rest⟩, b.grow [.token kind l.text], es⟩ := rfl

theorem run_build {step : TreeBuilder → Except BuilderFault TreeBuilder} {b : TreeBuilder}
    (ok : step s.builder = .ok b) :
    build step s = (pure () : Descent Unit) { s with builder := b } := by
  have seen : (get : Descent DescentState) s = (pure s : Descent DescentState) s := rfl
  rw [build, run_bind seen]
  simp only [ok]
  rfl

end Descent

/-- Whether a routine, run when the trees `held` came in behind the mark it was given, does what a
parser did and then goes on as the routine `k`. -/
def Follows {n : Nat} (m : Nat → Descent Unit) (k : Descent Unit) (held : List Tree) (c : Cursor)
    (r : Parsed n) : Prop :=
  ∀ (b : TreeBuilder) (es : List SyntaxError), b.Ready →
    m b.mark ⟨c, b.grow held, es⟩ = k ⟨r.next, b.grow r.out, es ++ r.errors⟩

/-- A routine that follows a parser and ends there may be run before any other. -/
theorem Follows.before {n : Nat} {m : Descent Unit} {c : Cursor} {r : Parsed n}
    (first : Follows (fun _ => m) (pure ()) [] c r) (k : Descent Unit) :
    Follows (fun _ => m >>= fun _ => k) k [] c r :=
  fun b es ready => Descent.run_bind (first b es ready) _

/-- What a routine goes on as may follow a second parser behind the first one. -/
theorem Follows.append {i j n : Nat} {m next k : Descent Unit} {c : Cursor} {r : Parsed i}
    {s : Parsed j} (first : Follows (fun _ => m) next [] c r)
    (second : Follows (fun _ => next) k [] r.next s) (bound : s.next.length < n) :
    Follows (fun _ => m) k [] c
      (Parsed.mk (r.out ++ s.out) (r.errors ++ s.errors) s.next bound) := by
  intro b es ready
  refine (first b es ready).trans ?_
  have := second (b.grow r.out) (es ++ r.errors) (ready.grow r.out)
  simpa using this

namespace Parser

open Descent (startNode startNodeAt finishNode checkpoint note)

variable {n : Nat} {p q : Parser n} {use : List Tree → Parser n} {c : Cursor} {h : c.length < n}
  {m k : Descent Unit} {body rest : Nat → Descent Unit} {held : List Tree} {kind : SyntaxKind}
  {r : Parsed n}

theorem follows_emit : Follows (fun _ => k) k held c (emit held c h) := by
  intro b es _
  simp [emit]

theorem follows_skip : Follows (fun _ => k) k [] c ((skip : Parser n) c h) := follows_emit

theorem follows_look {choose : Cursor → Parser n} (chosen : Follows body k held c (choose c c h)) :
    Follows body k held c (look choose c h) := chosen

/-- Asking for what comes next changes nothing. -/
theorem follows_current {body : SyntaxKind → Nat → Descent Unit}
    (chosen : Follows (body c.current) k held c r) :
    Follows (fun mark => Descent.current >>= fun found => body found mark) k held c r := chosen

theorem follows_atLineBreak {body : Bool → Nat → Descent Unit}
    (chosen : Follows (body c.atLineBreak) k held c r) :
    Follows (fun mark => Descent.atLineBreak >>= fun broken => body broken mark) k held c r :=
  chosen

theorem follows_atWord {word : Text} {body : Bool → Nat → Descent Unit}
    (chosen : Follows (body (c.atWord word)) k held c r) :
    Follows (fun mark => Descent.atWord word >>= fun found => body found mark) k held c r := chosen

theorem follows_left {body : Nat → Nat → Descent Unit}
    (chosen : Follows (body c.length) k held c r) :
    Follows (fun mark => Descent.left >>= fun left => body left mark) k held c r := chosen

theorem follows_pos {cond : Prop} [Decidable cond] (holds : cond) (yes : Follows body k held c r) :
    Follows (fun mark => if cond then body mark else rest mark) k held c r := by
  simpa only [if_pos holds] using yes

theorem follows_neg {cond : Prop} [Decidable cond] (fails : ¬ cond)
    (no : Follows rest k held c r) :
    Follows (fun mark => if cond then body mark else rest mark) k held c r := by
  simpa only [if_neg fails] using no

/-- The routine and the parser choose alike. -/
theorem follows_ite {cond : Prop} [Decidable cond]
    (yes : cond → Follows body k held c (p c h)) (no : ¬ cond → Follows rest k held c (q c h)) :
    Follows (fun mark => if cond then body mark else rest mark) k held c
      ((if cond then p else q) c h) := by
  by_cases holds : cond
  · rw [if_pos holds]
    exact follows_pos holds (yes holds)
  · rw [if_neg holds]
    exact follows_neg holds (no holds)

/-- The routine ends where the parser reads nothing. -/
theorem follows_unless {cond : Prop} [Decidable cond] (stops : cond → p c h = skip c h)
    (goes : ¬ cond → Follows body k [] c (p c h)) :
    Follows (fun mark => if cond then k else body mark) k [] c (p c h) := by
  by_cases holds : cond
  · rw [stops holds]
    exact follows_pos holds follows_skip
  · exact follows_neg holds (goes holds)

theorem follows_fail {problem : SyntaxKind → SyntaxProblem} :
    Follows (fun _ => note problem) (pure ()) [] c ((fail problem : Parser n) c h) := by
  intro b es _
  rw [TreeBuilder.grow_nil, fail, TreeBuilder.grow_nil]
  rfl

theorem follows_andThen {next : Descent Unit}
    (first : Follows (fun _ => m) (pure ()) [] c (p c h))
    (second : Follows (fun _ => next) k [] (p c h).next (q (p c h).next (p c h).bound)) :
    Follows (fun _ => m >>= fun _ => next) k [] c (andThen p q c h) :=
  (first.before next).append second _

/-- What is read behind the trees held is held with them. -/
theorem follows_capture
    (first : ∀ mark, Follows (fun _ => body mark) (rest mark) [] c (p c h))
    (second : Follows rest k (held ++ (p c h).out) (p c h).next
      (use (p c h).out (p c h).next (p c h).bound)) :
    Follows body k held c (capture p use c h) := by
  intro b es ready
  have read := first b.mark (b.grow held) es (ready.grow held)
  have used := second b (es ++ (p c h).errors) ready
  simp only [TreeBuilder.grow_nil, TreeBuilder.grow_grow] at read
  rw [read, used, List.append_assoc]
  rfl

theorem run_checkpoint (c : Cursor) (b : TreeBuilder) (es : List SyntaxError) :
    checkpoint ⟨c, b, es⟩ = (pure (b.grow (c.trivia.map Tree.ofLexeme)).mark : Descent Nat)
      ⟨c.pastTrivia, b.grow (c.trivia.map Tree.ofLexeme), es⟩ := by
  unfold checkpoint
  rw [Descent.run_bind (Descent.run_eatTrivia _)]
  rfl

/-- A mark is taken behind the trivia. -/
theorem follows_checkpoint
    (marked : ∀ h, Follows body k [] c.pastTrivia (p c.pastTrivia h)) :
    Follows (fun _ => checkpoint >>= fun mark => body mark) k [] c (andThen trivia p c h) := by
  intro b es ready
  rw [TreeBuilder.grow_nil]
  refine (Descent.run_bind (run_checkpoint c b es) _).trans ?_
  have bound := Nat.lt_of_le_of_lt c.length_pastTrivia_le h
  have := marked bound (b.grow (c.trivia.map Tree.ofLexeme)) es (ready.grow _)
  simpa [andThen, trivia] using this

theorem follows_marked
    (first : ∀ h, Follows (fun _ => m) (pure ()) [] c.pastTrivia (p c.pastTrivia h))
    (second : ∀ out d h, Follows rest k out d (use out d h)) :
    Follows (fun _ => checkpoint >>= fun mark => m >>= fun _ => rest mark) k [] c
      (marked p use c h) :=
  follows_checkpoint fun h =>
    follows_capture (fun mark => (first h).before (rest mark)) (second _ _ _)

theorem run_startNodeAt {b : TreeBuilder} (ready : b.Ready) (kind : SyntaxKind) (held : List Tree)
    (c : Cursor) (es : List SyntaxError) :
    startNodeAt b.mark kind ⟨c, b.grow held, es⟩ =
      (pure () : Descent Unit) ⟨c, b.opened kind held, es⟩ :=
  Descent.run_build (TreeBuilder.startAt_mark ready held kind)

theorem run_finishNode (b : TreeBuilder) (kind : SyntaxKind) (held children : List Tree)
    (c : Cursor) (es : List SyntaxError) :
    finishNode ⟨c, (b.opened kind held).grow children, es⟩ =
      (pure () : Descent Unit) ⟨c, b.grow [.node kind (held ++ children)], es⟩ :=
  Descent.run_build (TreeBuilder.close_opened kind held children)

/-- A node opened at the mark takes in what came in since then and what is read until it is closed.
It is held when the routine goes on. -/
theorem follows_enclose {i j : Nat} {inner : Parsed i} {behind : Parsed j}
    (first : ∀ mark, Follows (fun _ => body mark) (finishNode >>= fun _ => rest mark) [] c inner)
    (second : Follows rest k [.node kind (held ++ inner.out)] inner.next behind)
    (out : r.out = behind.out) (errors : r.errors = inner.errors ++ behind.errors)
    (next : r.next = behind.next) :
    Follows (fun mark => startNodeAt mark kind >>= fun _ => body mark) k held c r := by
  intro b es ready
  refine (Descent.run_bind (run_startNodeAt ready kind held c es) _).trans ?_
  have read := first b.mark (b.opened kind held) es (TreeBuilder.ready_opened kind held)
  rw [TreeBuilder.grow_nil] at read
  refine read.trans ((Descent.run_bind (run_finishNode b kind held _ _ _) _).trans ?_)
  rw [second b _ ready, out, errors, next, List.append_assoc]

theorem follows_wrap (inner : Follows (fun _ => m) finishNode [] c (p c h)) :
    Follows (fun mark => startNodeAt mark kind >>= fun _ => m) (pure ()) held c
      (wrap kind held p c h) := by
  intro b es ready
  refine (Descent.run_bind (run_startNodeAt ready kind held c es) _).trans ?_
  have read := inner (b.opened kind held) es (TreeBuilder.ready_opened kind held)
  rw [TreeBuilder.grow_nil] at read
  refine read.trans ((run_finishNode b kind held _ _ _).trans ?_)
  simp [wrap, capture, emit]

theorem run_startNode (c : Cursor) (b : TreeBuilder) (es : List SyntaxError) :
    startNode kind ⟨c, b, es⟩ = (pure () : Descent Unit)
      ⟨c.pastTrivia, (b.grow (c.trivia.map Tree.ofLexeme)).opened kind [], es⟩ := by
  rw [← TreeBuilder.start_eq_opened]
  exact (Descent.run_bind (Descent.run_eatTrivia _) _).trans (Descent.run_build rfl)

theorem follows_node
    (inner : ∀ h, Follows (fun _ => m) finishNode [] c.pastTrivia (p c.pastTrivia h)) :
    Follows (fun _ => startNode kind >>= fun _ => m) (pure ()) [] c (node kind p c h) := by
  intro b es ready
  have bound := Nat.lt_of_le_of_lt c.length_pastTrivia_le h
  rw [TreeBuilder.grow_nil]
  refine (Descent.run_bind (run_startNode c b es) _).trans ?_
  have read := inner bound ((b.grow (c.trivia.map Tree.ofLexeme)).opened kind []) es
    (TreeBuilder.ready_opened kind [])
  rw [TreeBuilder.grow_nil] at read
  refine read.trans ((run_finishNode _ kind [] _ _ _).trans ?_)
  simp [node, marked, capture, andThen, trivia, emit]

theorem run_bumpAs {l : Lexeme} {rest : List Lexeme} (eq : c.pastTrivia.rest = l :: rest)
    (b : TreeBuilder) (es : List SyntaxError) :
    Descent.bumpAs kind ⟨c, b, es⟩ = (pure () : Descent Unit)
      ⟨⟨c.pastTrivia.offset + l.size, rest⟩,
        b.grow (c.trivia.map Tree.ofLexeme ++ [.token kind l.text]), es⟩ := by
  refine (Descent.run_bind (Descent.run_eatTrivia _) _).trans ?_
  have here : c.pastTrivia = ⟨c.pastTrivia.offset, l :: rest⟩ := by rw [← eq]
  simp only
  rw [here, Descent.run_shift, TreeBuilder.grow_grow]

theorem run_bump {l : Lexeme} {rest : List Lexeme} (eq : c.pastTrivia.rest = l :: rest)
    (b : TreeBuilder) (es : List SyntaxError) :
    Descent.bump ⟨c, b, es⟩ = (pure () : Descent Unit)
      ⟨⟨c.pastTrivia.offset + l.size, rest⟩,
        b.grow (c.trivia.map Tree.ofLexeme ++ [.ofLexeme l]), es⟩ := by
  rw [Tree.ofLexeme, ← Cursor.current_of_rest eq]
  exact run_bumpAs eq b es

theorem follows_bumpAs :
    Follows (fun _ => Descent.bumpAs kind) (pure ()) [] c (bumpAs kind c h) := by
  intro b es _
  rw [TreeBuilder.grow_nil]
  cases eq : c.pastTrivia.rest with
  | nil =>
    rw [bumpAs_of_nil eq]
    refine (Descent.run_bind (Descent.run_eatTrivia _) _).trans ?_
    have here : c.pastTrivia = ⟨c.pastTrivia.offset, []⟩ := by rw [← eq]
    simp only [trivia, List.append_nil]
    rw [here]
    rfl
  | cons l rest =>
    rw [bumpAs_of_cons eq (Nat.lt_trans (Cursor.length_behind eq _) h), List.append_nil]
    exact run_bumpAs eq b es

theorem follows_trivia :
    Follows (fun _ => Descent.eatTrivia) (pure ()) [] c ((trivia : Parser n) c h) := by
  intro b es _
  simpa [trivia] using Descent.run_eatTrivia ⟨c, b, es⟩

theorem follows_bump : Follows (fun _ => Descent.bump) (pure ()) [] c ((bump : Parser n) c h) :=
  follows_current follows_bumpAs

theorem follows_expect :
    Follows (fun _ => Descent.expect kind) (pure ()) [] c ((expect kind : Parser n) c h) :=
  follows_current (follows_ite (fun _ => follows_bump) (fun _ => follows_fail))

theorem follows_leaf :
    Follows (fun _ => Descent.leaf kind) (pure ()) [] c ((Grammar.leaf kind : Parser n) c h) :=
  follows_node fun _ => follows_bump.before finishNode

theorem follows_reject {problem : SyntaxKind → SyntaxProblem} :
    Follows (fun _ => Descent.reject problem) (pure ()) [] c ((reject problem : Parser n) c h) := by
  refine follows_look ?_
  split
  · rename_i ended
    have failed : Follows (fun _ => note problem) (pure ()) [] c ((fail problem : Parser n) c h) :=
      follows_fail
    refine (failed.before _).append (s := skip c h) ?_ h
    exact follows_current (follows_pos ended follows_skip)
  · rename_i more
    exact follows_andThen follows_fail (follows_current (follows_neg more follows_leaf))

/-- Behind a token, the routine goes on with less than before. -/
theorem follows_bumpBehind {next : Descent Unit} {h : c.length < n + 1}
    (more : c.current ≠ .endOfInput)
    (second : ∀ d h, d.length < c.length → Follows (fun _ => next) k [] d (p d h)) :
    Follows (fun _ => Descent.bump >>= fun _ => next) k [] c (bumpThen p c h) := by
  obtain ⟨l, rest, eq, hd⟩ := Cursor.exists_token (Cursor.rest_ne_nil_of_current more) h
  intro b es ready
  rw [TreeBuilder.grow_nil, bumpThen, take_of_cons eq hd]
  refine (Descent.run_bind (run_bump eq b es) _).trans ?_
  have := second _ hd (Cursor.length_behind eq _)
    (b.grow (c.trivia.map Tree.ofLexeme ++ [.ofLexeme l])) es (ready.grow _)
  simpa [andThen, emit] using this

theorem follows_bumpThen {next : Descent Unit} {h : c.length < n + 1}
    (more : c.current ≠ .endOfInput) (second : ∀ d h, Follows (fun _ => next) k [] d (p d h)) :
    Follows (fun _ => Descent.bump >>= fun _ => next) k [] c (bumpThen p c h) :=
  follows_bumpBehind more fun d h _ => second d h

/-- A node that starts with the next token. -/
theorem follows_nodeThen {next : Descent Unit} {h : c.length < n + 1}
    (more : c.current ≠ .endOfInput)
    (second : ∀ d h, Follows (fun _ => next) finishNode [] d (p d h)) :
    Follows (fun _ => startNode kind >>= fun _ => Descent.bump >>= fun _ => next) (pure ()) [] c
      (node kind (bumpThen p) c h) :=
  follows_node fun _ => follows_bumpThen (by rwa [Cursor.current_pastTrivia]) second

/-- A token behind a mark. -/
theorem follows_markThen {use : Lexeme → Parser n} {h : c.length < n + 1}
    (more : c.current ≠ .endOfInput)
    (second : ∀ l d h, Follows body k [.ofLexeme l] d (use l d h)) :
    Follows (fun _ => checkpoint >>= fun mark => Descent.bump >>= fun _ => body mark) k [] c
      (take (fun trivia l => andThen (emit trivia) (use l)) c h) := by
  obtain ⟨l, rest, eq, hd⟩ := Cursor.exists_token (Cursor.rest_ne_nil_of_current more) h
  have eq' : c.pastTrivia.pastTrivia.rest = l :: rest := by simpa using eq
  intro b es ready
  rw [TreeBuilder.grow_nil, take_of_cons eq hd]
  refine (Descent.run_bind (run_checkpoint c b es) _).trans ?_
  refine (Descent.run_bind (run_bump eq' _ es) _).trans ?_
  have := second l _ hd (b.grow (c.trivia.map Tree.ofLexeme)) es (ready.grow _)
  simpa [andThen, emit] using this

/-- A part of what goes into a node, read before the node is opened. -/
theorem follows_wrapRest (first : ∀ mark, Follows (fun _ => body mark) (rest mark) [] c (p c h))
    (second : Follows rest k (held ++ (p c h).out) (p c h).next
      (wrap kind (held ++ (p c h).out) q (p c h).next (p c h).bound)) :
    Follows body k held c (wrap kind held (andThen p q) c h) := by
  have parts : wrap kind held (andThen p q) c h =
      capture p (fun out => wrap kind (held ++ out) q) c h := by
    simp [wrap, capture, andThen, emit]
  rw [parts]
  exact follows_capture first second

/-- A token is rejected, and then something else is read. -/
theorem follows_rejectThen {problem : SyntaxKind → SyntaxProblem} {next : Descent Unit}
    {h : c.length < n + 1} (more : c.current ≠ .endOfInput)
    (second : ∀ d h, Follows (fun _ => next) k [] d (p d h)) :
    Follows (fun _ => Descent.reject problem >>= fun _ => next) k [] c
      (rejectThen problem p c h) := by
  have rejected : Follows (fun _ => Descent.reject problem) (pure ()) [] c
    ((reject problem : Parser (n + 1)) c h) := follows_reject
  obtain ⟨l, rest, eq, hd⟩ := Cursor.exists_token (Cursor.rest_ne_nil_of_current more) h
  have failed : ((fail problem : Parser (n + 1)) c h).next.pastTrivia.rest = l :: rest := eq
  simp only [reject, look, if_neg more, andThen, node_bump_of_cons failed (Nat.lt_succ_of_lt hd)]
    at rejected
  simp only [rejectThen, look, if_neg more, andThen, take_of_cons failed hd]
  have whole := (rejected.before next).append (second _ hd) (Nat.lt_succ_of_lt (p _ hd).bound)
  simpa [emit, fail] using whole

/-- A loop goes on if the routine read something, and else does something else where it stands. -/
theorem follows_progress {h : c.length < n + 1} {p stuck : Parser (n + 1)} {q : Parser n}
    {body : Nat → Descent Unit} {again otherwise : Descent Unit}
    (le : (p c h).next.length ≤ c.length)
    (first : ∀ before, Follows (fun _ => body before)
      (Descent.left >>= fun left => if left = before then otherwise else again) [] c (p c h))
    (second : ∀ d h, Follows (fun _ => again) k [] d (q d h))
    (last : (p c h).next.length = c.length →
      Follows (fun _ => otherwise) k [] (p c h).next (stuck (p c h).next (p c h).bound)) :
    Follows (fun _ => Descent.left >>= fun before => body before) k [] c
      (progress p q stuck c h) := by
  refine follows_left ?_
  simp only [progress]
  split
  · rename_i shorter
    have behind := second (p c h).next (Nat.lt_of_lt_of_le shorter (Nat.le_of_lt_succ h))
    exact (first c.length).append (follows_left (follows_neg (Nat.ne_of_lt shorter) behind)) _
  · rename_i same
    have stands := Nat.le_antisymm le (Nat.le_of_not_lt same)
    exact (first c.length).append (follows_left (follows_pos stands (last stands))) _

/-- The node of the next token takes in the trees held, and is held when the routine goes on. -/
theorem follows_extend (use : List Tree → Parser n) (kindOf : Lexeme → SyntaxKind)
    {h : c.length < n + 1} (more : c.current ≠ .endOfInput)
    (kinds : ∀ l, c.current = l.kind → kindOf l = kind)
    (first : ∀ mark d h,
      Follows (fun _ => body mark) (finishNode >>= fun _ => rest mark) [] d (p d h))
    (second : ∀ ts d h, Follows rest k ts d (use ts d h)) :
    Follows (fun mark => startNodeAt mark kind >>= fun _ => Descent.bump >>= fun _ => body mark) k
      held c
      (take (fun trivia l => capture p fun out =>
        use [.node (kindOf l) (held ++ trivia ++ .ofLexeme l :: out)]) c h) := by
  obtain ⟨l, tail, eq, hd⟩ := Cursor.exists_token (Cursor.rest_ne_nil_of_current more) h
  rw [take_of_cons eq hd, kinds l (Cursor.current_of_rest eq)]
  have inner : bumpThen p c h = ⟨c.trivia.map Tree.ofLexeme ++ [.ofLexeme l] ++ (p _ hd).out,
      (p _ hd).errors, (p _ hd).next, Nat.lt_succ_of_lt (p _ hd).bound⟩ := take_of_cons eq hd
  have read := fun mark => follows_bumpThen (h := h) more (first mark)
  rw [inner] at read
  refine follows_enclose read (second _ _ (p _ hd).bound) ?_ ?_ ?_ <;> simp [capture]

end Parser

end ScriptLint
