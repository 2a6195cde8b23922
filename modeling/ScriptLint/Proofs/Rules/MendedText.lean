import ScriptLint.Proofs.Rules.Rows

/-!
# Texts with mended gaps

If making gaps anew keeps the lexemes of one gap apart (`Gap.KeepsApart`), the lexemes of a text whose
gaps are made anew are those that were put there (`standing_remade`). So it is for a text whose gaps
are as they ought to be (`standing_mended`): no token grows together with what was put behind it, and
nothing that was taken out had kept two of them apart.
-/

namespace ScriptLint

namespace Lexeme

open Text

variable {xs ys ys' : List Lexeme} {l : Lexeme}

theorem standing_append : Standing (xs ++ ys) → Standing ys := by
  induction xs with
  | nil => exact id
  | cons x xs ih => exact fun standing => ih standing.2

theorem stands_of_mem (standing : Standing xs) (mem : l ∈ xs) : ∃ behind, l.Stands behind := by
  induction xs with
  | nil => cases mem
  | cons x xs ih =>
    rcases List.mem_cons.1 mem with rfl | later
    · exact ⟨_, standing.1⟩
    · exact ih standing.2 later

/-- Trivia stand before other lexemes that start like those that they stood before. -/
theorem standing_of_softens (trivia : ∀ l ∈ xs, l.isTrivia = true) (standing : Standing (xs ++ ys))
    (behind : Standing ys') (softens : ∀ l ∈ xs, Softens (joints l.kind) (join ys) (join ys')) :
    Standing (xs ++ ys') := by
  induction xs with
  | nil => exact behind
  | cons x xs ih =>
    have first : x.Stands (join (xs ++ ys)) := standing.1
    obtain ⟨-, rest⟩ := standing
    show x.Stands (join (xs ++ ys')) ∧ _
    refine ⟨?_, ih (fun l mem => trivia l (List.mem_cons_of_mem x mem)) rest fun l mem =>
      softens l (List.mem_cons_of_mem x mem)⟩
    rw [join_append] at first ⊢
    exact first.soften ((softens x List.mem_cons_self).append _) fun number =>
      absurd number (isMark_of_trivia (trivia x List.mem_cons_self)).1

/-- Block comments stand before anything. -/
theorem standing_comments (comments : ∀ l ∈ xs, l.kind = .blockComment ∧ ∃ behind, l.Stands behind)
    (behind : Standing ys) : Standing (xs ++ ys) := by
  induction xs with
  | nil => exact behind
  | cons x xs ih =>
    obtain ⟨kind, before, stands⟩ := comments x List.mem_cons_self
    refine ⟨stands.soften ?_ ?_, ih fun l mem => comments l (List.mem_cons_of_mem x mem)⟩
    · rw [kind]
      intro p among
      cases among
    · intro number
      rw [kind] at number
      cases number

theorem head_join (some : l.text ≠ []) (ls : List Lexeme) :
    (join (l :: ls)).head? = l.text.head? := by
  obtain ⟨c, t, text⟩ := List.exists_cons_of_ne_nil some
  rw [join_cons, text]
  rfl

/-- Comments and a template start with a slash or a tick. -/
theorem head_comments (comments : ∀ t ∈ xs, t.kind.isComment = true) (template : l.kind = .template)
    (standing : Standing (xs ++ l :: ys)) :
    (join (xs ++ l :: ys)).head? = some '/' ∨ (join (xs ++ l :: ys)).head? = some backtick := by
  cases xs with
  | nil =>
    have stands : l.Stands (join ys) := standing.1
    rw [List.nil_append, head_join stands.ne_nil]
    exact .inr (stands.head_of_template template)
  | cons t ts =>
    have stands : t.Stands (join (ts ++ l :: ys)) := standing.1
    rw [List.cons_append, head_join stands.ne_nil]
    exact .inl (stands.head_of_comment (comments t List.mem_cons_self))

/-- In front of a template, a comment that runs to the end of its line has something else than comments
behind it. -/
theorem not_all_comments {t : Lexeme} (among : t ∈ xs) (line : t.kind = .lineComment)
    (template : l.kind = .template) (standing : Standing (xs ++ l :: ys)) :
    ¬ ∀ t ∈ xs, t.kind.isComment = true := by
  intro comments
  obtain ⟨before, behind, rfl⟩ := List.append_of_mem among
  rw [List.append_assoc] at standing
  obtain ⟨stands, standing⟩ : t.Stands (join (behind ++ l :: ys)) ∧ Standing (behind ++ l :: ys) :=
    standing_append standing
  have breaks := stands.behind_lineComment line
  have head := head_comments (fun t mem => comments t (by simp [mem])) template standing
  rcases head with head | head <;> (rw [head] at breaks; cases breaks)

theorem head_zeroed (point : l.leads = false) (some : l.text ≠ []) :
    l.zeroed.text.head? = l.text.head? := by
  unfold zeroed
  rw [if_neg (by simp [point])]
  split
  · obtain ⟨c, t, text⟩ := List.exists_cons_of_ne_nil some
    rw [text]
    rfl
  · rfl

theorem heads_of_leads (point : l.leads = true) (ls ls' : List Lexeme) :
    ∃ t t', join (l :: ls) = '.' :: t ∧ join (l.zeroed :: ls') = '0' :: t' := by
  have head : l.text.head? = some '.' := by
    simp only [leads, Bool.and_eq_true, beq_iff_eq] at point
    exact point.2
  obtain ⟨t, text⟩ := List.head?_eq_some_iff.1 head
  refine ⟨t ++ join ls, '.' :: t ++ join ls', ?_, ?_⟩
  · rw [join_cons, text]
    rfl
  · rw [join_cons, zeroed, if_pos point, text]
    rfl

/-- The last significant lexeme of a run stands before what comes behind it. -/
theorem stands_lastOf {read ls : List Lexeme} (standing : Standing (read ++ ls))
    (last : lastOf read = some l) : l.Stands (join (triviaBehind read ++ ls)) := by
  obtain ⟨init, eq⟩ := List.getLast?_eq_some_iff.1 last
  rw [← upToLast_append_triviaBehind read, eq, List.append_assoc, List.append_assoc] at standing
  exact (standing_append standing).1

/-- Without trivia behind it, the last lexeme of a run is significant. -/
theorem lastKind_of_lastOf {read : List Lexeme} (none : triviaBehind read = [])
    (last : lastOf read = some l) (before : SyntaxKind) : lastKind before read = l.kind := by
  have whole := upToLast_append_triviaBehind read
  rw [none, List.append_nil] at whole
  rw [lastOf, whole] at last
  simp [lastKind, last]

end Lexeme

namespace Rules

open Lexeme Text

theorem stands_space {behind : Text} (apart : behind.head?.any isBlank = false) :
    space.Stands behind := by
  refine ⟨' ', [], rfl, fun start => ?_⟩
  rw [scan_of_ne_slash start (by decide), if_pos (by decide)]
  exact ⟨rfl, Cut.taken_run_iff.2 ⟨rfl, apart⟩, rfl⟩

namespace Gap

variable {wide : Bool} {g : Gap} {ls rest : List Lexeme}

/-- What may become of a gap. -/
theorem lexemes_mended (fits : g.Fits) (wide : Bool) (rest : List Lexeme) :
    let mended := (g.mended wide).lexemes ++ rest
    (g.lacks wide = true ∧ mended = space :: (g.trivia ++ g.token.zeroed :: rest)) ∨
      (g.exceeds wide = true ∧ mended = g.comments ++ g.token.zeroed :: rest) ∨
      (g.parts = true ∧ mended = space :: g.token.zeroed :: rest) ∨
      (g.parts = false ∧ mended = g.trivia ++ g.token.zeroed :: rest) := by
  by_cases lacks : g.lacks wide
  · have tagged : g.tagged = true := by
      simp only [Gap.lacks, Bool.and_eq_true] at lacks
      exact lacks.1.1
    exact .inl ⟨lacks, by simp [lexemes, mended, spacing, lacks, fits.parts tagged]⟩
  by_cases exceeds : g.exceeds wide
  · have tagged : g.tagged = true := by
      simp only [Gap.exceeds, Bool.and_eq_true] at exceeds
      exact exceeds.1.1.1
    exact .inr (.inl
      ⟨exceeds, by simp [lexemes, mended, spacing, lacks, exceeds, fits.parts tagged]⟩)
  by_cases parts : g.parts
  · have none : g.trivia = [] := by
      simp only [Gap.parts, touchesWord, Bool.and_eq_true] at parts
      simpa using parts.2.1
    exact .inr (.inr (.inl
      ⟨parts, by simp [lexemes, mended, spacing, lacks, exceeds, parts, none]⟩))
  · exact .inr (.inr (.inr
      ⟨by simpa using parts, by simp [lexemes, mended, spacing, lacks, exceeds, parts]⟩))

/-- Whether the token may come right behind the one before it, if it does. -/
def Seamed (g : Gap) : Prop :=
  g.trivia = [] → ∀ p, g.before = some p → g.token.MayFollow p.kind

/-- A zero goes to a place of its own if nothing else does but space behind a tag. -/
theorem Seamed.clear (seamed : g.Seamed)
    (spacing : g.lacks wide = true → g.before.any trails = false) : g.Clear wide := by
  refine ⟨spacing, fun point none => ?_⟩
  cases before : g.before with
  | none => rfl
  | some p =>
    simp only [leads, Bool.and_eq_true, beq_iff_eq] at point
    have apart : p.kind ≠ .number := fun kind => ((seamed none p before).1 kind).1 point.1
    simp [trails, apart]

/-- A gap of a text, and the lexemes that come behind it before and after it is mended. -/
structure Lies (g : Gap) (ls rest : List Lexeme) : Prop where
  fits : g.Fits
  trivia : ∀ l ∈ g.trivia, l.isTrivia = true
  seamed : g.Seamed
  standing : Standing (g.trivia ++ g.token :: ls)
  token : g.token.zeroed.Stands (join rest)
  rest : Standing rest

namespace Lies

theorem stands (lies : g.Lies ls rest) : g.token.Stands (join ls) :=
  (standing_append lies.standing).1

theorem behind (lies : g.Lies ls rest) : Standing (g.token.zeroed :: rest) := ⟨lies.token, lies.rest⟩

theorem head (lies : g.Lies ls rest) (point : g.token.leads = false) :
    (join (g.token.zeroed :: rest)).head? = (join (g.token :: ls)).head? := by
  rw [head_join lies.token.ne_nil, head_join lies.stands.ne_nil,
    head_zeroed point lies.stands.ne_nil]

theorem softens (lies : g.Lies ls rest) : ∀ l ∈ g.trivia,
    Softens (joints l.kind) (join (g.token :: ls)) (join (g.token.zeroed :: rest)) := by
  intro l mem
  cases point : g.token.leads with
  | false => exact softens_of_head (lies.head point)
  | true =>
    obtain ⟨t, behind, eq, eq'⟩ := heads_of_leads point ls rest
    have mark := isMark_of_trivia (lies.trivia l mem)
    have dot : l.kind ≠ .dot := by
      intro kind
      have trivia := lies.trivia l mem
      rw [isTrivia, kind] at trivia
      cases trivia
    rw [eq, eq']
    exact softens_zero mark.1 dot mark.2 _ _

theorem standing_mended (lies : g.Lies ls rest) (wide : Bool) :
    Standing ((g.mended wide).lexemes ++ rest) := by
  have kept : Standing (g.trivia ++ g.token.zeroed :: rest) :=
    standing_of_softens lies.trivia lies.standing lies.behind lies.softens
  rcases lexemes_mended lies.fits wide rest with
    ⟨lacks, eq⟩ | ⟨exceeds, eq⟩ | ⟨parts, eq⟩ | ⟨-, eq⟩ <;> rw [eq]
  · simp only [Gap.lacks, Bool.and_eq_true, Bool.not_eq_true'] at lacks
    have template : g.token.zeroed.kind = .template := by
      rw [kind_zeroed, lies.fits.template lacks.1.1]
    have apart := head_comments (isComment_of_unspaced lies.trivia lacks.2) template kept
    refine ⟨stands_space ?_, kept⟩
    rcases apart with head | head <;> (rw [head]; decide)
  · refine standing_comments (fun l mem => ?_) lies.behind
    obtain ⟨among, comment⟩ := List.mem_filter.1 mem
    simp only [Gap.exceeds, Bool.and_eq_true, Bool.not_eq_true', endsLine,
      List.any_eq_false] at exceeds
    have line : l.kind ≠ .lineComment := by simpa using exceeds.2 l among
    refine ⟨?_, stands_of_mem lies.standing (List.mem_append_left _ among)⟩
    cases kind : l.kind <;> simp_all [SyntaxKind.isComment]
  · simp only [Gap.parts, Bool.and_eq_true] at parts
    obtain ⟨t, behind, -, head⟩ := heads_of_leads parts.1 ls rest
    exact ⟨stands_space (by rw [head]; rfl), lies.behind⟩
  · exact kept

/-- What comes behind a number does not start with the mark of an exponent. -/
theorem head_of_number {p : Lexeme} (lies : g.Lies ls rest) (before : g.before = some p)
    (number : p.kind = .number) :
    (join (g.trivia ++ g.token :: ls)).head?.any isExponentMark = false := by
  cases eq : g.trivia with
  | nil =>
    have follows := lies.seamed eq p before
    rw [number] at follows
    rw [List.nil_append, head_join lies.stands.ne_nil]
    exact lies.stands.head_behind_number follows
  | cons t ts =>
    have among : t ∈ g.trivia := by simp [eq]
    obtain ⟨before, stands⟩ := stands_of_mem lies.standing (List.mem_append_left _ among)
    rw [List.cons_append, head_join stands.ne_nil]
    exact stands.head_behind_number ((isMark_of_trivia (lies.trivia t among)).mayFollow _)

/-- Comments and a template start with characters that an operand keeps apart from. -/
theorem before_comments {p : Lexeme} {behind : Text} (lies : g.Lies ls rest)
    (template : g.token.kind = .template) (significant : p.isTrivia = false) (slash : p.kind ≠ .slash)
    (stands : p.Stands behind) : p.Stands (join (g.comments ++ g.token.zeroed :: rest)) := by
  cases eq : g.comments with
  | nil =>
    have point : g.token.leads = false := by simp [leads, template]
    have head : (join (g.token.zeroed :: rest)).head? = some backtick := by
      rw [head_join lies.token.ne_nil, head_zeroed point lies.stands.ne_nil,
        lies.stands.head_of_template template]
    obtain ⟨t, text⟩ := List.head?_eq_some_iff.1 head
    have line : p.kind ≠ .lineComment := by
      intro kind
      rw [isTrivia, kind] at significant
      cases significant
    rw [List.nil_append, text]
    exact stands.before (joints_apart_tick line) (by decide) t
  | cons c cs =>
    obtain ⟨among, comment⟩ := List.mem_filter.1 (show c ∈ g.comments by simp [eq])
    obtain ⟨before, comments⟩ := stands_of_mem lies.standing (List.mem_append_left _ among)
    have head : (join (c :: (cs ++ g.token.zeroed :: rest))).head? = some '/' := by
      rw [head_join comments.ne_nil, comments.head_of_comment comment]
    obtain ⟨t, text⟩ := List.head?_eq_some_iff.1 head
    rw [List.cons_append, text]
    exact stands.before (joints_apart_slash significant slash) (by decide) t

theorem before_mended {p : Lexeme} (lies : g.Lies ls rest) (wide : Bool) (before : g.before = some p)
    (significant : p.isTrivia = false) (original : p.Stands (join (g.trivia ++ g.token :: ls))) :
    p.zeroed.Stands (join ((g.mended wide).lexemes ++ rest)) := by
  have stands := original.zeroed
  have kept : p.zeroed.isTrivia = false := by rwa [isTrivia, kind_zeroed]
  have blank : ∀ t, p.zeroed.Stands (' ' :: t) :=
    stands.before (joints_apart_blank kept) (by decide)
  rcases lexemes_mended lies.fits wide rest with
    ⟨-, eq⟩ | ⟨exceeds, eq⟩ | ⟨-, eq⟩ | ⟨parts, eq⟩ <;> rw [eq]
  · exact blank _
  · simp only [Gap.exceeds, Bool.and_eq_true] at exceeds
    obtain ⟨tag, last, slash⟩ := lies.fits.tag exceeds.1.1.1
    obtain rfl : p = tag := Option.some.inj (before.symm.trans last)
    exact lies.before_comments (lies.fits.template exceeds.1.1.1) kept (by simpa using slash) stands
  · exact blank _
  · by_cases leading : g.trivia = [] ∧ g.token.leads = true
    · obtain ⟨none, point⟩ := leading
      obtain ⟨t, behind, head, head'⟩ := heads_of_leads point ls rest
      have follows := lies.seamed none p before
      have number : g.token.kind = .number := by
        simp only [leads, Bool.and_eq_true, beq_iff_eq] at point
        exact point.1
      have word : p.kind.namesProperty = false := by
        by_contra word
        have last := original.last_of_word (by simpa using word)
        simp [Gap.parts, point, touchesWord, none, before, last] at parts
      have apart : p.kind ≠ .number := fun kind => (follows.1 kind).1 number
      rw [none, List.nil_append, head] at stands
      rw [none, List.nil_append, head']
      refine stands.soften ?_ fun kind => absurd kind (by simpa using apart)
      rw [kind_zeroed]
      exact softens_zero apart (fun kind => follows.2 kind number) word _ _
    · refine stands.of_head ?_ fun number => lies.head_of_number before (by simpa using number)
      cases eq : g.trivia with
      | nil => exact lies.head (by simpa [eq] using leading)
      | cons t ts =>
        have among : t ∈ g.trivia := by simp [eq]
        obtain ⟨before, stands⟩ := stands_of_mem lies.standing (List.mem_append_left _ among)
        rw [List.cons_append, List.cons_append, head_join stands.ne_nil, head_join stands.ne_nil]

/-- A gap of a text, if nothing is made anew behind it. -/
theorem original (fits : g.Fits) (trivia : ∀ l ∈ g.trivia, l.isTrivia = true) (seamed : g.Seamed)
    (standing : Standing (g.trivia ++ g.token :: ls)) : g.Lies ls ls where
  fits := fits
  trivia := trivia
  seamed := seamed
  standing := standing
  token := (standing_append standing).1.zeroed
  rest := (standing_append standing).2

theorem mended_behind (lies : g.Lies ls ls) (token : g.token.zeroed.Stands (join rest))
    (behind : Standing rest) : g.Lies ls rest :=
  ⟨lies.fits, lies.trivia, lies.seamed, lies.standing, token, behind⟩

end Lies

/-- Whether lexemes that stand before one another still do with their gaps made anew: those of a gap,
and the one before it, if what comes behind the gap was made anew. -/
structure KeepsApart (spell : Lexeme → Lexeme) (f : Gap → Gap) : Prop where
  respelled {l : Lexeme} {behind : Text} : l.Stands behind → (spell l).Stands behind
  standing {g : Gap} {ls rest : List Lexeme} (lies : g.Lies ls ls)
    (token : (spell g.token).Stands (join rest)) (behind : Standing rest) :
    Standing ((f g).lexemes ++ rest)
  before {g : Gap} {ls rest : List Lexeme} {p : Lexeme} (lies : g.Lies ls ls)
    (token : (spell g.token).Stands (join rest)) (behind : Standing rest)
    (before : g.before = some p) (significant : p.isTrivia = false)
    (original : p.Stands (join (g.trivia ++ g.token :: ls))) :
    (spell p).Stands (join ((f g).lexemes ++ rest))

theorem keepsApart_mended (wide : Bool) : KeepsApart zeroed (mended wide) where
  respelled stands := stands.zeroed
  standing lies token behind := (lies.mended_behind token behind).standing_mended wide
  before lies token behind before significant original :=
    (lies.mended_behind token behind).before_mended wide before significant original

end Gap

variable {wide : Bool} {read : List Lexeme} {marks : List Bool} {ls : List Lexeme}

theorem seamed_of_mem_gaps (marks : List Bool) (seamed : Seamed .semicolon (read ++ ls)) :
    ∀ g ∈ gaps read marks ls, g.Seamed := by
  induction ls generalizing read marks with
  | nil => simp [gaps]
  | cons l ls ih =>
    have behind : Seamed .semicolon (read ++ [l] ++ ls) := by simpa using seamed
    rw [gaps]
    split
    · exact ih marks behind
    · intro g mem
      rcases List.mem_cons.1 mem with rfl | later
      · intro none p last
        have follows := (seamed_append.1 seamed).2.1
        rwa [lastKind_of_lastOf none last] at follows
      · exact ih marks.tail behind g later

/-- The trivia of a gap and its token stand before what comes behind them. -/
theorem exists_standing_of_mem_gaps {g : Gap} (standing : Standing (read ++ ls))
    (mem : g ∈ gaps read marks ls) : ∃ rest, Standing (g.trivia ++ g.token :: rest) := by
  induction ls generalizing read marks with
  | nil => cases mem
  | cons l ls ih =>
    have behind : Standing (read ++ [l] ++ ls) := by simpa using standing
    rw [gaps] at mem
    split at mem
    · exact ih behind mem
    · rcases List.mem_cons.1 mem with rfl | later
      · rw [← upToLast_append_triviaBehind read, List.append_assoc] at standing
        exact ⟨ls, standing_append standing⟩
      · exact ih behind later

section
variable {f : Gap → Gap} {spell : Lexeme → Lexeme}

theorem standing_remade_behind (keeps : Gap.KeepsApart spell f)
    (fits : ∀ g ∈ gaps read marks ls, g.Fits) (seamed : ∀ g ∈ gaps read marks ls, g.Seamed)
    (standing : Standing (read ++ ls)) :
    Standing (remade f read marks ls) ∧
      ∀ p, lastOf read = some p → (spell p).Stands (join (remade f read marks ls)) := by
  induction ls generalizing read marks with
  | nil =>
    refine ⟨?_, fun p last => ?_⟩
    · rw [← upToLast_append_triviaBehind read, List.append_assoc] at standing
      simpa [remade, gaps] using standing_append standing
    · simpa [remade, gaps] using keeps.respelled (stands_lastOf standing last)
  | cons l ls ih =>
    have behind : Standing (read ++ [l] ++ ls) := by simpa using standing
    by_cases trivia : l.isTrivia
    · rw [gaps, if_pos trivia] at fits seamed
      have last : lastOf (read ++ [l]) = lastOf read := by
        rw [lastOf, lastOf, upToLast_trivia trivia]
      rw [remade_trivia trivia, ← last]
      exact ih fits seamed behind
    · have significant : l.isTrivia = false := by simpa using trivia
      rw [gaps, if_neg trivia] at fits seamed
      obtain ⟨rest, stands⟩ := ih (fun g mem => fits g (List.mem_cons_of_mem _ mem))
        (fun g mem => seamed g (List.mem_cons_of_mem _ mem)) behind
      have here : Standing (triviaBehind read ++ l :: ls) := by
        rw [← upToLast_append_triviaBehind read, List.append_assoc] at standing
        exact standing_append standing
      have lies := Gap.Lies.original (fits _ List.mem_cons_self)
        (fun _ => isTrivia_of_mem_triviaBehind) (seamed _ List.mem_cons_self) here
      have token := stands l (lastOf_significant significant read)
      rw [remade_significant significant]
      exact ⟨keeps.standing lies token rest, fun p last => keeps.before lies token rest last
        (significant_of_lastOf last) (stands_lastOf standing last)⟩

/-- A text with its gaps made anew is made of the lexemes that were put there. -/
theorem standing_remade (keeps : Gap.KeepsApart spell f) (fits : ∀ g ∈ gaps [] marks ls, g.Fits)
    (seamed : Seamed .semicolon ls) (standing : Standing ls) : Standing (remade f [] marks ls) :=
  (standing_remade_behind keeps fits (seamed_of_mem_gaps marks seamed) standing).1

end

/-- A text as it ought to be is made of the lexemes that were put there. -/
theorem standing_mended (fits : ∀ g ∈ gaps [] marks ls, g.Fits) (seamed : Seamed .semicolon ls)
    (standing : Standing ls) : Standing (mended wide [] marks ls) :=
  standing_remade (Gap.keepsApart_mended wide) fits seamed standing

end Rules

end ScriptLint
