import ScriptLint.Proofs.Rules.Gaps

/-!
# Texts as rows of gaps

A text is a row of gaps (`gaps`), each in its place (`spots`). If all of them are made anew token by
token (`remade`), the gaps of what comes out are those that were made (`gaps_remade`). What is put in
place of the parts of each gap makes a patched text (`pieces`), with the edits of the gaps
(`edits_pieces`). What the built-in rules do together are instances (`mended`, `patched`).
-/

namespace ScriptLint.Rules

open Lexeme (join triviaBehind upToLast lastOf)

variable {read : List Lexeme} {marks : List Bool} {ls : List Lexeme} {wide : Bool}

/-- The gaps of lexemes that come behind others, with a mark for each of their significant ones. -/
def gaps (read : List Lexeme) : (marks : List Bool) → List Lexeme → List Gap
  | _, [] => []
  | marks, l :: ls =>
    if l.isTrivia then gaps (read ++ [l]) marks ls
    else ⟨lastOf read, triviaBehind read, l, marks.headD false⟩ :: gaps (read ++ [l]) marks.tail ls

theorem gaps_trivia {ts : List Lexeme} (trivia : ∀ l ∈ ts, l.isTrivia = true) (read : List Lexeme)
    (marks : List Bool) (ls : List Lexeme) :
    gaps read marks (ts ++ ls) = gaps (read ++ ts) marks ls := by
  induction ts generalizing read with
  | nil => simp
  | cons t ts ih =>
    rw [List.cons_append, gaps, if_pos (trivia t List.mem_cons_self),
      ih fun l mem => trivia l (List.mem_cons_of_mem t mem), List.append_assoc]
    rfl

/-- A gap, and where its trivia lie. -/
structure Spot where
  span : Span
  gap : Gap

/-- The gaps of lexemes that come behind others, in their places. -/
def spots (read : List Lexeme) : (marks : List Bool) → List Lexeme → List Spot
  | _, [] => []
  | marks, l :: ls =>
    if l.isTrivia then spots (read ++ [l]) marks ls
    else
      ⟨⟨Text.size (join (upToLast read)), Text.size (join read)⟩,
          ⟨lastOf read, triviaBehind read, l, marks.headD false⟩⟩ ::
        spots (read ++ [l]) marks.tail ls

theorem map_gap_spots (read : List Lexeme) (marks : List Bool) (ls : List Lexeme) :
    (spots read marks ls).map Spot.gap = gaps read marks ls := by
  induction ls generalizing read marks with
  | nil => rfl
  | cons l ls ih => by_cases trivia : l.isTrivia <;> simp [spots, gaps, trivia, ih]

theorem spots_of_trivia {ts : List Lexeme} (trivia : ∀ l ∈ ts, l.isTrivia = true)
    (read : List Lexeme) (marks : List Bool) : spots read marks ts = [] := by
  induction ts generalizing read with
  | nil => rfl
  | cons t ts ih =>
    rw [spots, if_pos (trivia t List.mem_cons_self)]
    exact ih (fun l mem => trivia l (List.mem_cons_of_mem t mem)) _

theorem spots_append (read : List Lexeme) {marks marks' : List Bool} {ls ls' : List Lexeme}
    (length : marks.length = ls.countP fun l => ! l.isTrivia) :
    spots read (marks ++ marks') (ls ++ ls') =
      spots read marks ls ++ spots (read ++ ls) marks' ls' := by
  induction ls generalizing read marks with
  | nil =>
    obtain rfl := List.length_eq_zero_iff.1 length
    simp [spots]
  | cons l ls ih =>
    by_cases trivia : l.isTrivia
    · have length : marks.length = ls.countP fun l => ! l.isTrivia := by simpa [trivia] using length
      simp only [List.cons_append, spots, trivia, if_true, ih _ length, List.append_assoc,
        List.nil_append]
    · cases marks with
      | nil => simp [trivia] at length
      | cons mark marks =>
        have length : marks.length = ls.countP fun l => ! l.isTrivia := by
          simpa [trivia] using length
        simp only [List.cons_append, spots, trivia, List.headD_cons, List.tail_cons, ih _ length,
          List.append_assoc, List.nil_append, if_false, Bool.false_eq_true]

theorem size_read (read : List Lexeme) : Text.size (join read) =
    Text.size (join (upToLast read)) + Text.size (join (triviaBehind read)) := by
  rw [← Lexeme.size_join_append, Lexeme.upToLast_append_triviaBehind]

/-- The trivia of a gap fill its place. -/
theorem span_of_mem_spots {s : Spot} (mem : s ∈ spots read marks ls) :
    s.span.start + Text.size (join s.gap.trivia) = s.span.stop ∧
      s.span.stop ≤ Text.size (join (read ++ ls)) := by
  induction ls generalizing read marks with
  | nil => cases mem
  | cons l ls ih =>
    have later : ∀ {marks}, s ∈ spots (read ++ [l]) marks ls →
        s.span.start + Text.size (join s.gap.trivia) = s.span.stop ∧
          s.span.stop ≤ Text.size (join (read ++ l :: ls)) := by
      intro marks mem
      simpa using ih mem
    rw [spots] at mem
    split at mem
    · exact later mem
    · rcases List.mem_cons.1 mem with rfl | among
      · exact ⟨(size_read read).symm, by simp only [Lexeme.size_join_append]; omega⟩
      · exact later among

theorem gaps_append (read : List Lexeme) {marks marks' : List Bool} {ls ls' : List Lexeme}
    (length : marks.length = ls.countP fun l => ! l.isTrivia) :
    gaps read (marks ++ marks') (ls ++ ls') = gaps read marks ls ++ gaps (read ++ ls) marks' ls' := by
  rw [← map_gap_spots, spots_append read length, List.map_append, map_gap_spots, map_gap_spots]

/-- The lexemes of a gap are among those that it was found in. -/
theorem mem_of_mem_gaps {g : Gap} (mem : g ∈ gaps read marks ls) :
    ∀ l ∈ g.lexemes, l ∈ triviaBehind read ++ ls := by
  induction ls generalizing read marks with
  | nil => cases mem
  | cons t ls ih =>
    by_cases trivia : t.isTrivia
    · rw [gaps, if_pos trivia] at mem
      have later := ih mem
      rwa [Lexeme.triviaBehind_trivia trivia, List.append_assoc] at later
    · have significant : t.isTrivia = false := by simpa using trivia
      rw [gaps, if_neg trivia] at mem
      intro l among
      rcases List.mem_cons.1 mem with rfl | later
      · rcases List.mem_append.1 among with behind | own
        · exact List.mem_append_left _ behind
        · exact List.mem_append_right _ (List.mem_singleton.1 own ▸ List.mem_cons_self)
      · have behind := ih later l among
        rw [Lexeme.triviaBehind_significant significant] at behind
        exact List.mem_append_right _ (List.mem_cons_of_mem _ behind)

theorem map_tagged_gaps (read : List Lexeme)
    (length : marks.length = ls.countP fun l => ! l.isTrivia) :
    (gaps read marks ls).map Gap.tagged = marks := by
  induction ls generalizing read marks with
  | nil =>
    obtain rfl := List.length_eq_zero_iff.1 length
    rfl
  | cons l ls ih =>
    by_cases trivia : l.isTrivia
    · have length : marks.length = ls.countP fun l => ! l.isTrivia := by simpa [trivia] using length
      simp [gaps, trivia, ih _ length]
    · cases marks with
      | nil => simp [trivia] at length
      | cons mark marks =>
        have length : marks.length = ls.countP fun l => ! l.isTrivia := by
          simpa [trivia] using length
        simp [gaps, trivia, ih _ length]

theorem isTrivia_of_mem_gaps {g : Gap} (mem : g ∈ gaps read marks ls) :
    ∀ l ∈ g.trivia, l.isTrivia = true := by
  induction ls generalizing read marks with
  | nil => cases mem
  | cons l ls ih =>
    rw [gaps] at mem
    split at mem
    · exact ih mem
    · rcases List.mem_cons.1 mem with rfl | later
      · exact fun _ => Lexeme.isTrivia_of_mem_triviaBehind
      · exact ih later

theorem map_token_gaps (read : List Lexeme) (marks : List Bool) (ls : List Lexeme) :
    (gaps read marks ls).map Gap.token = ls.filter fun l => ! l.isTrivia := by
  induction ls generalizing read marks with
  | nil => rfl
  | cons l ls ih => by_cases trivia : l.isTrivia <;> simp [gaps, trivia, ih]

/-- The items of a text are those of its gaps. -/
theorem map_item_gaps (read : List Lexeme) (marks : List Bool) (ls : List Lexeme) :
    (gaps read marks ls).map Gap.item =
      Lexeme.items ((triviaBehind read).any Lexeme.hasLineBreak) ls := by
  induction ls generalizing read marks with
  | nil => rfl
  | cons l ls ih =>
    by_cases trivia : l.isTrivia
    · rw [gaps, if_pos trivia, Lexeme.items, if_pos trivia, ih, Lexeme.triviaBehind_trivia trivia]
      simp
    · rw [gaps, if_neg trivia, Lexeme.items, if_neg trivia, List.map_cons, ih,
        Lexeme.triviaBehind_significant (by simpa using trivia)]
      rfl

/-- The lexemes of a text with all gaps made anew. -/
def remade (f : Gap → Gap) (read : List Lexeme) (marks : List Bool) (ls : List Lexeme) : List Lexeme :=
  (gaps read marks ls).flatMap (fun g => (f g).lexemes) ++ triviaBehind (read ++ ls)

section
variable {f : Gap → Gap} {l : Lexeme}

theorem remade_trivia (trivia : l.isTrivia = true) (read : List Lexeme) (marks : List Bool)
    (ls : List Lexeme) : remade f read marks (l :: ls) = remade f (read ++ [l]) marks ls := by
  simp [remade, gaps, trivia]

theorem remade_significant (significant : l.isTrivia = false) (read : List Lexeme)
    (marks : List Bool) (ls : List Lexeme) :
    remade f read marks (l :: ls) =
      (f ⟨lastOf read, triviaBehind read, l, marks.headD false⟩).lexemes ++
        remade f (read ++ [l]) marks.tail ls := by
  simp [remade, gaps, significant]

/-- The gaps of the lexemes are those that were made. -/
theorem gaps_remade {spell : Lexeme → Lexeme} (remakes : Gap.Remakes spell f) (marks : List Bool)
    {read' : List Lexeme} (none : triviaBehind read' = [])
    (last : lastOf read' = (lastOf read).map spell) :
    gaps read' marks (remade f read marks ls) = (gaps read marks ls).map f := by
  induction ls generalizing read read' marks with
  | nil =>
    have trivia : ∀ l ∈ triviaBehind read, l.isTrivia = true :=
      fun l => Lexeme.isTrivia_of_mem_triviaBehind
    simpa [remade, gaps] using gaps_trivia trivia read' marks []
  | cons l ls ih =>
    by_cases trivia : l.isTrivia
    · rw [remade_trivia trivia, gaps, if_pos trivia]
      exact ih marks none (by rw [last, lastOf, lastOf, Lexeme.upToLast_trivia trivia])
    · have significant : l.isTrivia = false := by simpa using trivia
      let g : Gap := ⟨lastOf read, triviaBehind read, l, marks.headD false⟩
      have blank : ∀ t ∈ (f g).trivia, t.isTrivia = true :=
        remakes.trivia fun t => Lexeme.isTrivia_of_mem_triviaBehind
      obtain ⟨behind, before⟩ := Lexeme.behind_trivia blank read'
      have kept := remakes.respells.significant significant
      have first : ⟨lastOf (read' ++ (f g).trivia), triviaBehind (read' ++ (f g).trivia), spell l,
          marks.headD false⟩ = f g := by
        show _ = Gap.mk (f g).before (f g).trivia (f g).token (f g).tagged
        rw [behind, before, none, last, remakes.before, remakes.token, remakes.tagged]
        rfl
      have respelled : lastOf (read' ++ (f g).trivia ++ [spell l]) = (lastOf (read ++ [l])).map spell := by
        rw [Lexeme.lastOf_significant kept, Lexeme.lastOf_significant significant]
        rfl
      have rest := ih marks.tail (Lexeme.triviaBehind_significant kept _) respelled
      have token : (f g).token = spell l := remakes.token g
      rw [remade_significant significant, gaps, if_neg trivia, List.map_cons, Gap.lexemes, token,
        List.append_assoc, gaps_trivia blank, List.singleton_append, gaps, if_neg (by simp [kept])]
      exact congr (congrArg List.cons first) rest

/-- The items of a text with its gaps made anew. -/
theorem items_remade {spell : Lexeme → Lexeme} (remakes : Gap.Remakes spell f) (marks : List Bool)
    (ls : List Lexeme) : Lexeme.items false (remade f [] marks ls) =
      (gaps [] marks ls).map fun g => (f g).item := by
  have items := map_item_gaps [] marks (remade f [] marks ls)
  rw [gaps_remade remakes marks rfl rfl, List.map_map] at items
  exact items.symm

end

/-- The lexemes of a text with all gaps as they ought to be. -/
def mended (wide : Bool) (read : List Lexeme) (marks : List Bool) (ls : List Lexeme) : List Lexeme :=
  (gaps read marks ls).flatMap (fun g => (g.mended wide).lexemes) ++ triviaBehind (read ++ ls)

theorem mended_trivia {l : Lexeme} (trivia : l.isTrivia = true) (read : List Lexeme)
    (marks : List Bool) (ls : List Lexeme) :
    mended wide read marks (l :: ls) = mended wide (read ++ [l]) marks ls :=
  remade_trivia trivia read marks ls

theorem mended_significant {l : Lexeme} (significant : l.isTrivia = false) (read : List Lexeme)
    (marks : List Bool) (ls : List Lexeme) :
    mended wide read marks (l :: ls) =
      (Gap.mended wide ⟨lastOf read, triviaBehind read, l, marks.headD false⟩).lexemes ++
        mended wide (read ++ [l]) marks.tail ls :=
  remade_significant significant read marks ls

/-- The gaps of the lexemes as they ought to be. -/
theorem gaps_mended (marks : List Bool) (ls : List Lexeme) :
    gaps [] marks (mended wide [] marks ls) = (gaps [] marks ls).map (Gap.mended wide) :=
  gaps_remade (Gap.remakes_mended wide) marks rfl rfl

/-- A text with what is put in place of the parts of its gaps. -/
def pieces (p : Gap → List Patch) (read : List Lexeme) (marks : List Bool) (ls : List Lexeme) :
    List Patch :=
  (gaps read marks ls).flatMap p ++ [.keep (join (triviaBehind (read ++ ls)))]

section
variable {p : Gap → List Patch} {l : Lexeme}

theorem pieces_trivia (trivia : l.isTrivia = true) (read : List Lexeme) (marks : List Bool)
    (ls : List Lexeme) : pieces p read marks (l :: ls) = pieces p (read ++ [l]) marks ls := by
  simp [pieces, gaps, trivia]

theorem pieces_significant (significant : l.isTrivia = false) (read : List Lexeme)
    (marks : List Bool) (ls : List Lexeme) :
    pieces p read marks (l :: ls) =
      p ⟨lastOf read, triviaBehind read, l, marks.headD false⟩ ++
        pieces p (read ++ [l]) marks.tail ls := by
  simp [pieces, gaps, significant]

theorem source_pieces (source : ∀ g, Patch.source (p g) = join g.lexemes) (read : List Lexeme)
    (marks : List Bool) (ls : List Lexeme) :
    Patch.source (pieces p read marks ls) = join (triviaBehind read ++ ls) := by
  induction ls generalizing read marks with
  | nil => simp [pieces, gaps, Patch.source, Patch.keep]
  | cons l ls ih =>
    by_cases trivia : l.isTrivia
    · rw [pieces_trivia trivia, ih, Lexeme.triviaBehind_trivia trivia, List.append_assoc]
      rfl
    · have significant : l.isTrivia = false := by simpa using trivia
      rw [pieces_significant significant, Patch.source_append, ih, source,
        Lexeme.triviaBehind_significant significant, ← Lexeme.join_append, Gap.lexemes]
      simp

theorem output_pieces {f : Gap → Gap} (output : ∀ g, Patch.output (p g) = join (f g).lexemes)
    (read : List Lexeme) (marks : List Bool) (ls : List Lexeme) :
    Patch.output (pieces p read marks ls) = join (remade f read marks ls) := by
  induction ls generalizing read marks with
  | nil => simp [pieces, remade, gaps, Patch.output, Patch.result, Patch.keep]
  | cons l ls ih =>
    by_cases trivia : l.isTrivia
    · rw [pieces_trivia trivia, remade_trivia trivia, ih]
    · have significant : l.isTrivia = false := by simpa using trivia
      rw [pieces_significant significant, remade_significant significant, Patch.output_append, ih,
        output, Lexeme.join_append]

/-- The edits of a text are those of its gaps. -/
theorem edits_pieces (source : ∀ g, Patch.source (p g) = join g.lexemes) (read : List Lexeme)
    (marks : List Bool) (ls : List Lexeme) :
    Patch.edits (Text.size (join (upToLast read))) (pieces p read marks ls) =
      (spots read marks ls).flatMap fun s => Patch.edits s.span.start (p s.gap) := by
  induction ls generalizing read marks with
  | nil => simp [spots, pieces, gaps, Patch.edits, Patch.keep]
  | cons l ls ih =>
    by_cases trivia : l.isTrivia
    · rw [spots, if_pos trivia, ← ih, pieces_trivia trivia, Lexeme.upToLast_trivia trivia]
    · have significant : l.isTrivia = false := by simpa using trivia
      have stop : Text.size (join (upToLast (read ++ [l]))) = Text.size (join (upToLast read)) +
          Text.size (join (triviaBehind read ++ [l])) := by
        rw [Lexeme.upToLast_significant significant, ← Lexeme.size_join_append, ← List.append_assoc,
          Lexeme.upToLast_append_triviaBehind]
      rw [spots, if_neg trivia, List.flatMap_cons, ← ih, pieces_significant significant,
        Patch.edits_append, source, stop, Gap.lexemes]

/-- Where nothing is put in place of a part of a gap, nothing is put anywhere. -/
theorem edits_pieces_of_gaps (source : ∀ g, Patch.source (p g) = join g.lexemes)
    (none : ∀ g ∈ gaps [] marks ls, ∀ start, Patch.edits start (p g) = []) :
    Patch.edits 0 (pieces p [] marks ls) = [] := by
  have spots : Patch.edits 0 (pieces p [] marks ls) = _ := edits_pieces source [] marks ls
  rw [spots, List.flatMap_eq_nil_iff]
  intro s mem
  refine none s.gap ?_ _
  rw [← map_gap_spots]
  exact List.mem_map_of_mem mem

/-- Whether something was put behind a lexeme (`set`) is all that the patches of a gap have to know of
those before it. -/
theorem apart_pieces {set : Lexeme → Bool}
    (each : ∀ g ∈ gaps read marks ls, ∀ rest, Patch.Apart (set g.token) rest →
      Patch.Apart (g.before.any set) (p g ++ rest)) :
    Patch.Apart ((lastOf read).any set) (pieces p read marks ls) := by
  induction ls generalizing read marks with
  | nil => simp [pieces, gaps, Patch.Apart, Patch.keep]
  | cons l ls ih =>
    by_cases trivia : l.isTrivia
    · rw [gaps, if_pos trivia] at each
      have last : lastOf (read ++ [l]) = lastOf read := by
        rw [lastOf, lastOf, Lexeme.upToLast_trivia trivia]
      rw [pieces_trivia trivia, ← last]
      exact ih each
    · have significant : l.isTrivia = false := by simpa using trivia
      rw [gaps, if_neg trivia] at each
      have behind := ih fun g mem => each g (List.mem_cons_of_mem _ mem)
      rw [Lexeme.lastOf_significant significant] at behind
      rw [pieces_significant significant]
      exact each _ List.mem_cons_self _ behind

end

/-- A text with what is put in place of its parts. -/
def patched (wide : Bool) (read : List Lexeme) (marks : List Bool) (ls : List Lexeme) : List Patch :=
  (gaps read marks ls).flatMap (Gap.patches wide) ++ [.keep (join (triviaBehind (read ++ ls)))]

theorem source_patched (wide : Bool) (read : List Lexeme) (marks : List Bool) (ls : List Lexeme) :
    Patch.source (patched wide read marks ls) = join (triviaBehind read ++ ls) :=
  source_pieces (Gap.source_patches wide) read marks ls

theorem output_patched (wide : Bool) (read : List Lexeme) (marks : List Bool) (ls : List Lexeme) :
    Patch.output (patched wide read marks ls) = join (mended wide read marks ls) :=
  output_pieces (Gap.output_patches wide) read marks ls

/-- The edits that mend the gaps of lexemes that come behind others. -/
def edits (wide : Bool) (read : List Lexeme) : (marks : List Bool) → List Lexeme → List Edit
  | _, [] => []
  | marks, l :: ls =>
    if l.isTrivia then edits wide (read ++ [l]) marks ls
    else
      Patch.edits (Text.size (join (upToLast read)))
          (Gap.patches wide ⟨lastOf read, triviaBehind read, l, marks.headD false⟩) ++
        edits wide (read ++ [l]) marks.tail ls

theorem edits_eq_flatMap (wide : Bool) (read : List Lexeme) (marks : List Bool) (ls : List Lexeme) :
    edits wide read marks ls =
      (spots read marks ls).flatMap fun s => Patch.edits s.span.start (s.gap.patches wide) := by
  induction ls generalizing read marks with
  | nil => rfl
  | cons l ls ih => by_cases trivia : l.isTrivia <;> simp [edits, spots, trivia, ih]

theorem edits_append (read : List Lexeme) {marks marks' : List Bool} {ls ls' : List Lexeme}
    (length : marks.length = ls.countP fun l => ! l.isTrivia) :
    edits wide read (marks ++ marks') (ls ++ ls') =
      edits wide read marks ls ++ edits wide (read ++ ls) marks' ls' := by
  rw [edits_eq_flatMap, spots_append read length, List.flatMap_append, edits_eq_flatMap,
    edits_eq_flatMap]

theorem edits_of_trivia {ts : List Lexeme} (trivia : ∀ l ∈ ts, l.isTrivia = true)
    (read : List Lexeme) (marks : List Bool) : edits wide read marks ts = [] := by
  rw [edits_eq_flatMap, spots_of_trivia trivia]
  rfl

/-- The edits of the gaps are those of their text. -/
theorem edits_eq (wide : Bool) (read : List Lexeme) (marks : List Bool) (ls : List Lexeme) :
    edits wide read marks ls =
      Patch.edits (Text.size (join (upToLast read))) (patched wide read marks ls) :=
  (edits_eq_flatMap wide read marks ls).trans
    (edits_pieces (Gap.source_patches wide) read marks ls).symm

/-- Where no gap is to be mended, there is nothing to put in place of parts of the text. -/
theorem edits_patched_of_gaps
    (none : ∀ g ∈ gaps [] marks ls, ∀ start, Patch.edits start (g.patches wide) = []) :
    Patch.edits 0 (patched wide [] marks ls) = [] :=
  edits_pieces_of_gaps (Gap.source_patches wide) none

theorem apart_patched (fits : ∀ g ∈ gaps read marks ls, g.Fits)
    (clear : ∀ g ∈ gaps read marks ls, g.Clear wide)
    (filled : ∀ l ∈ triviaBehind read ++ ls, l.text ≠ []) :
    Patch.Apart ((lastOf read).any Lexeme.trails) (patched wide read marks ls) :=
  apart_pieces fun g mem _ apart => g.apart_patches (fits g mem) (clear g mem)
    (fun l among => filled l (mem_of_mem_gaps mem l among)) apart

end ScriptLint.Rules
