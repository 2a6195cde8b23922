import ScriptLint.Proofs.Splice.Sequential

/-!
# Merged edits

Edits that fit a text can be merged if no two of them share a byte: sorted, they ascend then
(`Edit.ascending_sorted_iff`). The merged edit does to the text what the edits do one by one, as a
splice makes them when each of them is reported on its own (`Edit.merge_agrees`).
-/

namespace ScriptLint

variable {source : Text} {edits : List Edit} {ds : List Diagnostic}

theorem Text.between_self (t : Text) (n : Nat) : Text.between t n n = [] := by
  unfold Text.between Text.slice?
  cases Text.split? t n <;> simp [Text.split?]

namespace Edit

theorem ascending_iff (ordered : ∀ e ∈ edits, e.span.start ≤ e.span.stop) :
    ascending edits = true ↔ edits.Pairwise fun a b => a.span.stop ≤ b.span.start := by
  induction edits with
  | nil => simp [ascending]
  | cons a edits ih =>
    have later := ih fun e mem => ordered e (List.mem_cons_of_mem a mem)
    cases edits with
    | nil => simp [ascending]
    | cons b edits =>
      simp only [ascending, Bool.and_eq_true, decide_eq_true_eq, later]
      constructor
      · rintro ⟨first, ascend⟩
        refine List.pairwise_cons.2 ⟨fun e mem => ?_, ascend⟩
        rcases List.mem_cons.1 mem with rfl | behind
        · exact first
        · have inner := ordered b (List.mem_cons_of_mem a List.mem_cons_self)
          exact Nat.le_trans first (Nat.le_trans inner ((List.pairwise_cons.1 ascend).1 e behind))
      · intro ascend
        obtain ⟨first, ascend⟩ := List.pairwise_cons.1 ascend
        exact ⟨first b List.mem_cons_self, ascend⟩

theorem sorted_perm (edits : List Edit) : (sorted edits).Perm edits := List.mergeSort_perm _ _

theorem pairwise_sorted (edits : List Edit) :
    (sorted edits).Pairwise fun a b => a.span.le b.span = true := by
  refine List.pairwise_mergeSort ?_ ?_ _
  · exact fun _ _ _ => Span.le_trans
  · exact fun a b => Span.le_total a.span b.span

/-- Edits in their right order ascend if and only if no two of them share a byte. -/
theorem ascending_sorted_iff (ordered : ∀ e ∈ edits, e.span.start ≤ e.span.stop) :
    ascending (sorted edits) = true ↔ edits.Pairwise fun a b => a.overlaps b = false := by
  have ordered' : ∀ e ∈ sorted edits, e.span.start ≤ e.span.stop :=
    fun e mem => ordered e ((sorted_perm edits).subset mem)
  rw [ascending_iff ordered', ← (sorted_perm edits).pairwise_iff
    fun {a b} apart => overlaps_comm a b ▸ apart]
  constructor
  · exact List.Pairwise.imp overlaps_eq_false_of_le
  · intro apart
    refine (apart.and (pairwise_sorted edits)).imp_of_mem fun {a b} _ mem both => ?_
    by_contra before
    have shared := overlaps_of_le (ordered' b mem) both.2 (Nat.lt_of_not_le before)
    rw [both.1] at shared
    cases shared

/-- One edit in place of sorted ones. -/
def woven (source : Text) (first : Edit) (rest : List Edit) : Edit :=
  ⟨⟨first.span.start, lastStop first.span.start (first :: rest)⟩,
    weave source first.span.start (first :: rest)⟩

/-- Merging several edits that fit. -/
theorem exists_merge_eq (several : 2 ≤ edits.length)
    (fits : ∀ e ∈ edits, e.isValid source = true) :
    ∃ first rest, sorted edits = first :: rest ∧ merge source edits =
      if ascending (sorted edits) then .ok (some (woven source first rest)) else .error .overlap := by
  have some : sorted edits ≠ [] := by
    intro none
    have length := (sorted_perm edits).length_eq
    simp only [none, List.length_nil] at length
    omega
  obtain ⟨first, rest, eq⟩ := List.exists_cons_of_ne_nil some
  refine ⟨first, rest, eq, ?_⟩
  unfold merge
  split
  · simp at several
  · simp at several
  · rw [findSome?_problem?.2 fits, eq]
    rfl

theorem applyAll_woven (source : Text) (first : Edit) (rest : List Edit) :
    applyAll source [woven source first rest] = applyAll source (first :: rest) := by
  have last (stop : Nat) : lastStop stop [] = stop := rfl
  simp [applyAll, woven, weave, lastStop_cons, last, Text.between_self]

/-- The last one of ascending edits ends behind all of them. -/
theorem stop_le_lastStop {first : Edit} {rest : List Edit} (start : Nat)
    (ordered : ∀ e ∈ first :: rest, e.span.start ≤ e.span.stop)
    (ascend : (first :: rest).Pairwise fun a b => a.span.stop ≤ b.span.start) :
    ∀ e ∈ first :: rest, e.span.stop ≤ lastStop start (first :: rest) := by
  intro e mem
  obtain ⟨last, eq⟩ : ∃ last, (first :: rest).getLast? = some last :=
    ⟨_, List.getLast?_eq_some_getLast (by simp)⟩
  obtain ⟨init, whole⟩ := List.getLast?_eq_some_iff.1 eq
  rw [lastStop, eq, Option.map_some, Option.getD_some]
  rw [whole] at mem ascend
  rcases List.mem_append.1 mem with before | here
  · have inner := (List.pairwise_append.1 ascend).2.2 e before last (List.mem_singleton_self last)
    have := ordered last (List.mem_of_getLast? eq)
    omega
  · obtain rfl := List.mem_singleton.1 here
    exact Nat.le_refl _

/-- An edit owes this to the edits that it was merged from. It fits the text, and it reaches from the
smallest start to the largest end. The text that it makes as the edit of a diagnostic is the one that
the edits make as those of one diagnostic each, and of these all are accepted. -/
structure MergedFrom (source : Text) (edits : List Edit) (merged : Edit) : Prop where
  fits : merged.isValid source = true
  start_le : ∀ e ∈ edits, merged.span.start ≤ e.span.start
  exists_start : ∃ e ∈ edits, e.span.start = merged.span.start
  le_stop : ∀ e ∈ edits, e.span.stop ≤ merged.span.stop
  exists_stop : ∃ e ∈ edits, e.span.stop = merged.span.stop
  output : ∀ d ds, d.edit = some merged → ds.map Diagnostic.edit = edits.map some →
    (Splice.run source [d]).output = (Splice.run source ds).output
  accepted : ∀ ds, ds.map Diagnostic.edit = edits.map some →
    (Splice.run source ds).skipped = 0 ∧
      (Splice.run source ds).diagnostics = ds.map fun d => { d with status := .applied }

end Edit

namespace Splice

section
variable (apart : (offered source ds).Pairwise fun a b => a.overlaps b = false)
include apart

/-- Edits that share no byte are all chosen. -/
theorem chosen_of_apart : chosen source ds = Candidate.sorted (Candidate.collect source 0 ds) ∧
    (chosen source ds).map Candidate.edit = Edit.sorted (offered source ds) := by
  have edits : (Candidate.sorted (Candidate.collect source 0 ds)).map Candidate.edit =
      Edit.sorted (offered source ds) := by
    rw [← Candidate.map_edit_collect 0]
    exact List.map_mergeSort fun _ _ _ _ => rfl
  have ordered : ∀ e ∈ offered source ds, e.span.start ≤ e.span.stop :=
    fun e mem => (Edit.isValid_iff.1 (List.mem_filter.1 mem).2).1
  have ascend := (Edit.ascending_sorted_iff ordered).2 apart
  rw [Edit.ascending_iff fun e mem => ordered e ((Edit.sorted_perm _).subset mem), ← edits] at ascend
  have all : chosen source ds = Candidate.sorted (Candidate.collect source 0 ds) :=
    Candidate.accept_of_ascending (fun _ _ => Nat.zero_le _) (List.pairwise_map.1 ascend)
  exact ⟨all, all ▸ edits⟩

theorem chosen_perm_of_apart : (chosen source ds).Perm (Candidate.collect source 0 ds) :=
  (chosen_of_apart apart).1 ▸ List.mergeSort_perm _ _

theorem skipped_of_apart : (run source ds).skipped = 0 := by
  have skipped : (run source ds).skipped =
      (Candidate.collect source 0 ds).length - (chosen source ds).length := rfl
  rw [skipped, (chosen_perm_of_apart apart).length_eq, Nat.sub_self]

end

/-- The diagnostics that carry some edits in a row, if these fit. -/
theorem offered_of_map_edit {edits : List Edit} (fits : ∀ e ∈ edits, e.isValid source = true)
    (carried : ds.map Diagnostic.edit = edits.map some) : offered source ds = edits := by
  have all : ds.filterMap Diagnostic.edit = edits := calc
    ds.filterMap Diagnostic.edit = (ds.map Diagnostic.edit).filterMap id := by
      rw [List.filterMap_map]
      rfl
    _ = edits := by
      rw [carried, List.filterMap_map]
      exact List.filterMap_some
  rw [offered, all]
  exact List.filter_eq_self.2 fits

end Splice

namespace Edit

/-- Merging edits that fit a text and share no byte. -/
theorem mergedFrom_woven {first : Edit} {rest : List Edit}
    (fits : ∀ e ∈ edits, e.isValid source = true) (eq : sorted edits = first :: rest)
    (merged : merge source edits = .ok (some (woven source first rest)))
    (apart : edits.Pairwise fun a b => a.overlaps b = false) :
    MergedFrom source edits (woven source first rest) := by
  have ordered : ∀ e ∈ edits, e.span.start ≤ e.span.stop :=
    fun e mem => (isValid_iff.1 (fits e mem)).1
  have among {e : Edit} : e ∈ first :: rest ↔ e ∈ edits := eq ▸ (sorted_perm edits).mem_iff
  have ordered' : ∀ e ∈ first :: rest, e.span.start ≤ e.span.stop :=
    fun e mem => ordered e (among.1 mem)
  have ascend : (first :: rest).Pairwise fun a b => a.span.stop ≤ b.span.start := by
    rw [← ascending_iff ordered', ← eq]
    exact (ascending_sorted_iff ordered).2 apart
  have offered {ds : List Diagnostic} (carried : ds.map Diagnostic.edit = edits.map some) :=
    Splice.offered_of_map_edit fits carried
  have valid := isValid_merge fits merged
  refine ⟨valid, fun e mem => ?_, ⟨first, among.1 List.mem_cons_self, rfl⟩, fun e mem => ?_, ?_,
    fun d ds carries carried => ?_, fun ds carried => ⟨?_, ?_⟩⟩
  · rcases List.mem_cons.1 (among.2 mem) with rfl | behind
    · exact Nat.le_refl _
    · exact Nat.le_trans (ordered' first List.mem_cons_self)
        ((List.pairwise_cons.1 ascend).1 e behind)
  · exact stop_le_lastStop first.span.start ordered' ascend e (among.2 mem)
  · obtain ⟨last, mem, stop⟩ := lastStop_eq first.span.start first rest
    exact ⟨last, among.1 mem, stop.symm⟩
  · have alone : (Splice.chosen source [d]).map Candidate.edit = [woven source first rest] := by
      simp [Splice.chosen, Candidate.collect, Option.filter, carries, valid, Candidate.sorted,
        Candidate.accept]
    have each : (Splice.chosen source ds).map Candidate.edit = first :: rest := by
      rw [(Splice.chosen_of_apart (by rwa [offered carried])).2, offered carried, eq]
    calc (Splice.run source [d]).output
        = applyAll source ((Splice.chosen source [d]).map Candidate.edit) := rfl
      _ = applyAll source ((Splice.chosen source ds).map Candidate.edit) := by
        rw [alone, each, applyAll_woven]
      _ = (Splice.run source ds).output := rfl
  · exact Splice.skipped_of_apart (by rwa [offered carried])
  · rw [Splice.diagnostics_of_chosen_perm (Splice.chosen_perm_of_apart (by rwa [offered carried]))]
    refine List.map_congr_left fun d mem => ?_
    obtain ⟨e, carrier, edit⟩ := List.mem_map.1 (carried ▸ List.mem_map_of_mem mem)
    simp [← edit, fits e carrier]

/-- Several edits that fit a text merge if and only if no two of them share a byte, and then the
merged edit does what they do; edits of which one does not fit never merge. -/
theorem merge_agrees (source : Text) (edits : List Edit) (several : 2 ≤ edits.length) :
    ((∀ e ∈ edits, e.isValid source = true) →
      ((∃ result, merge source edits = .ok result) ↔
        edits.Pairwise fun a b => a.overlaps b = false) ∧
      ∀ result, merge source edits = .ok result →
        ∃ merged, result = some merged ∧ MergedFrom source edits merged) ∧
    ((∃ e ∈ edits, e.isValid source = false) → ∃ problem, merge source edits = .error problem) := by
  refine ⟨fun fits => ?_, fun ⟨e, mem, invalid⟩ => ?_⟩
  · have ordered : ∀ e ∈ edits, e.span.start ≤ e.span.stop :=
      fun e mem => (isValid_iff.1 (fits e mem)).1
    obtain ⟨first, rest, eq, merged⟩ := exists_merge_eq several fits
    by_cases apart : edits.Pairwise fun a b => a.overlaps b = false
    · rw [if_pos ((ascending_sorted_iff ordered).2 apart)] at merged
      refine ⟨⟨fun _ => apart, fun _ => ⟨_, merged⟩⟩, fun result ok => ?_⟩
      cases merged.symm.trans ok
      exact ⟨_, rfl, mergedFrom_woven fits eq merged apart⟩
    · rw [if_neg (mt (ascending_sorted_iff ordered).1 apart)] at merged
      simp [merged, apart]
  · cases found : edits.findSome? (problem? source) with
    | none => simp [findSome?_problem?.1 found e mem] at invalid
    | some problem =>
      refine ⟨problem, ?_⟩
      unfold merge
      split
      · simp at several
      · simp at several
      · rw [found]

/-- Two insertions at one place, a replacement behind them and a removal before them. -/
def touching : List Edit := [replace ⟨2, 4⟩ ['C'], insert 2 ['x'], insert 2 ['y'], remove ⟨0, 2⟩]

theorem merge_agrees_touching :
    (∃ merged, merge ['a', 'b', 'c', 'd'] touching = .ok (some merged) ∧
      MergedFrom ['a', 'b', 'c', 'd'] touching merged) ∧
    ∃ problem, merge ['a', 'b', 'c', 'd'] (insert 5 [] :: touching) = .error problem := by
  have fits : ∀ e ∈ touching, e.isValid ['a', 'b', 'c', 'd'] = true := by decide
  obtain ⟨merges, agrees⟩ := (merge_agrees ['a', 'b', 'c', 'd'] touching (by decide)).1 fits
  obtain ⟨result, ok⟩ := merges.2 (by decide)
  obtain ⟨merged, rfl, owes⟩ := agrees result ok
  refine ⟨⟨merged, ok, owes⟩, ?_⟩
  exact (merge_agrees ['a', 'b', 'c', 'd'] (insert 5 [] :: touching) (by decide)).2
    ⟨insert 5 [], List.mem_cons_self, by decide⟩

end Edit

end ScriptLint
