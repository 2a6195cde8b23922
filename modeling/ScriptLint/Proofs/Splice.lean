import Mathlib.Data.List.Perm.Basic
import ScriptLint.Splice

/-!
# What a splice settles

Splicing marks as many diagnostics as applied as it accepts edits (`countP_applied`): the accepted
candidates carry the numbers of different diagnostics. It accepts none only if there is no valid
edit (`applied_eq_zero_iff`), since the first candidate in order meets no accepted one, and then it
leaves the diagnostics as they are. A status stays in step with its edit (`status_eq_none_iff`).
Each edit that fits is accepted or skipped (`applied_add_skipped_eq_countP`), and none is left open
if all of them fit (`status_ne_available`).
-/

namespace ScriptLint

variable {source : Text} {ds : List Diagnostic} {d : Diagnostic}

/-- The edits of diagnostics that fit a text, in the order in which they were reported. -/
def Splice.offered (source : Text) (ds : List Diagnostic) : List Edit :=
  (ds.filterMap Diagnostic.edit).filter (Edit.isValid source)

theorem Splice.offered_of_fits
    (fits : ∀ d ∈ ds, ∀ e, d.edit = some e → e.isValid source = true) :
    offered source ds = ds.filterMap Diagnostic.edit := by
  refine List.filter_eq_self.2 fun e mem => ?_
  obtain ⟨d, among, carried⟩ := List.mem_filterMap.1 mem
  exact fits d among e carried

namespace Candidate

variable {candidates : List Candidate} {c : Candidate}

/-- A candidate carries the valid edit of the diagnostic of its number. -/
theorem exists_of_mem_collect {first : Nat} (mem : c ∈ collect source first ds) :
    ∃ i, c.index = first + i ∧ ∃ d, ds[i]? = some d ∧ d.edit = some c.edit ∧
      c.edit.isValid source = true := by
  induction ds generalizing first with
  | nil => simp [collect] at mem
  | cons d ds ih =>
    have later (mem : c ∈ collect source (first + 1) ds) :
        ∃ i, c.index = first + i ∧ ∃ x, (d :: ds)[i]? = some x ∧ x.edit = some c.edit ∧
          c.edit.isValid source = true := by
      obtain ⟨i, index, x, found, edit⟩ := ih mem
      exact ⟨i + 1, by omega, x, by simpa using found, edit⟩
    unfold collect at mem
    split at mem
    · rename_i edit fits
      rcases List.mem_cons.1 mem with rfl | behind
      · obtain ⟨carried, valid⟩ := Option.filter_eq_some_iff.1 fits
        exact ⟨0, rfl, d, rfl, carried, valid⟩
      · exact later behind
    · exact later mem

/-- A diagnostic with a valid edit has a candidate. -/
theorem mem_collect {i : Nat} {e : Edit} (first : Nat) (found : ds[i]? = some d)
    (carried : d.edit = some e) (valid : e.isValid source = true) :
    ⟨first + i, e⟩ ∈ collect source first ds := by
  induction ds generalizing first i with
  | nil => simp at found
  | cons x ds ih =>
    cases i with
    | zero =>
      obtain rfl : x = d := by simpa using found
      simp [collect, Option.filter, carried, valid]
    | succ i =>
      have later := ih (first + 1) (by simpa using found)
      rw [Nat.add_right_comm] at later
      unfold collect
      split
      · exact List.mem_cons_of_mem _ later
      · exact later

/-- Among the candidates is one with the number of a diagnostic if that one's edit fits. -/
theorem mem_index_collect {i : Nat} (found : ds[i]? = some d) :
    i ∈ (collect source 0 ds).map Candidate.index ↔ d.edit.any (Edit.isValid source) = true := by
  rw [List.mem_map, Option.any_eq_true]
  constructor
  · rintro ⟨c, mem, index⟩
    obtain ⟨j, eq, x, there, edit, valid⟩ := exists_of_mem_collect mem
    obtain rfl : i = j := by omega
    obtain rfl : d = x := by simpa [found] using there
    exact ⟨c.edit, edit, valid⟩
  · rintro ⟨e, carried, valid⟩
    exact ⟨_, mem_collect 0 found carried valid, Nat.zero_add i⟩

/-- The edits of the candidates are those that fit. -/
theorem map_edit_collect (first : Nat) :
    (collect source first ds).map Candidate.edit = Splice.offered source ds := by
  unfold Splice.offered
  induction ds generalizing first with
  | nil => rfl
  | cons d ds ih =>
    have later := ih (first + 1)
    unfold collect
    cases carried : d.edit with
    | none => simpa [Option.filter, carried] using later
    | some e => cases valid : e.isValid source <;> simpa [Option.filter, carried, valid] using later

/-- There is a candidate for each edit that fits. -/
theorem length_collect (first : Nat) :
    (collect source first ds).length = ds.countP fun d => d.edit.any (Edit.isValid source) := by
  induction ds generalizing first with
  | nil => rfl
  | cons d ds ih =>
    have later := ih (first + 1)
    unfold collect
    cases carried : d.edit with
    | none => simpa [Option.filter, carried] using later
    | some e => cases valid : e.isValid source <;> simp [Option.filter, carried, valid, later]

theorem collect_eq_nil_iff (first : Nat) :
    collect source first ds = [] ↔ ∀ d ∈ ds, ∀ e, d.edit = some e → e.isValid source = false := by
  induction ds generalizing first with
  | nil => simp [collect]
  | cons d ds ih =>
    have behind := ih (first + 1)
    unfold collect
    cases carried : d.edit with
    | none => simpa [Option.filter, carried] using behind
    | some e => cases valid : e.isValid source <;> simp [Option.filter, carried, valid, behind]

/-- The numbers of candidates ascend. -/
theorem collect_indices (first : Nat) :
    ((collect source first ds).map Candidate.index).Pairwise (· < ·) := by
  induction ds generalizing first with
  | nil => exact .nil
  | cons d ds ih =>
    unfold collect
    split
    · refine List.pairwise_cons.2 ⟨?_, ih (first + 1)⟩
      intro index mem
      obtain ⟨c, among, rfl⟩ := List.mem_map.1 mem
      obtain ⟨i, eq, _⟩ := exists_of_mem_collect among
      rw [eq]
      exact Nat.lt_add_right i (Nat.lt_succ_self first)
    · exact ih (first + 1)

theorem accept_sublist (stop : Nat) (candidates : List Candidate) :
    (accept stop candidates).Sublist candidates := by
  induction candidates generalizing stop with
  | nil => exact .refl []
  | cons c cs ih =>
    unfold accept
    split
    · exact (ih _).cons_cons c
    · exact (ih _).cons c

/-- The first candidate in order is accepted. -/
theorem accept_zero_eq_nil_iff : accept 0 candidates = [] ↔ candidates = [] := by
  cases candidates with
  | nil => simp [accept]
  | cons c cs => simp [accept]

end Candidate

namespace Splice

open Candidate (collect accept)

/-- The candidates that a splice accepts. -/
def chosen (source : Text) (ds : List Diagnostic) : List Candidate :=
  accept 0 (Candidate.sorted (collect source 0 ds))

theorem mem_collect_of_mem_chosen {c : Candidate} (mem : c ∈ chosen source ds) :
    c ∈ collect source 0 ds :=
  List.mem_mergeSort.1 ((Candidate.accept_sublist _ _).subset mem)

theorem applied_eq_length : (run source ds).applied = (chosen source ds).length := by
  simp [run, applied, chosen]

theorem chosen_indices_nodup : ((chosen source ds).map Candidate.index).Nodup := by
  have ascending : ((collect source 0 ds).map Candidate.index).Pairwise (· < ·) :=
    Candidate.collect_indices 0
  have sorted : ((Candidate.sorted (collect source 0 ds)).map Candidate.index).Nodup :=
    ((List.mergeSort_perm _ _).map _).nodup_iff.2 (ascending.imp Nat.ne_of_lt)
  exact sorted.sublist ((Candidate.accept_sublist _ _).map _)

theorem chosen_eq_nil_iff :
    chosen source ds = [] ↔ ∀ d ∈ ds, ∀ e, d.edit = some e → e.isValid source = false := by
  rw [chosen, Candidate.accept_zero_eq_nil_iff, ← Candidate.collect_eq_nil_iff 0]
  simp [Candidate.sorted, ← List.length_eq_zero_iff]

theorem applied_eq_zero_iff : (run source ds).applied = 0 ↔
    ∀ d ∈ ds, ∀ e, d.edit = some e → e.isValid source = false := by
  rw [applied_eq_length, List.length_eq_zero_iff, chosen_eq_nil_iff]

/-- Settling changes nothing but the status. -/
theorem settle_eq (candidates accepted : List Candidate) (i : Nat) (d : Diagnostic) :
    settle candidates accepted i d =
      { d with status := (settle candidates accepted i d).status } := by
  unfold settle
  split
  · rfl
  · split <;> rfl

theorem edit_settle (candidates accepted : List Candidate) (i : Nat) (d : Diagnostic) :
    (settle candidates accepted i d).edit = d.edit := by
  rw [settle_eq]

theorem mem_diagnostics {x : Diagnostic} (mem : x ∈ (run source ds).diagnostics) :
    ∃ i d, ds[i]? = some d ∧ x = settle (collect source 0 ds) (chosen source ds) i d := by
  obtain ⟨i, bound, rfl⟩ := List.mem_mapIdx.1 mem
  exact ⟨i, ds[i], List.getElem?_eq_getElem bound, rfl⟩

theorem any_index (candidates : List Candidate) (i : Nat) :
    candidates.any (·.index == i) = decide (i ∈ candidates.map Candidate.index) := by
  rw [Bool.eq_iff_iff]
  simp

/-- Diagnostics learn what became of their edits, if these fit. -/
theorem diagnostics_eq : (run source ds).diagnostics = ds.mapIdx fun i d =>
    if i ∈ (chosen source ds).map Candidate.index then { d with status := .applied }
    else if d.edit.any (Edit.isValid source) then { d with status := .skippedConflict } else d := by
  refine List.mapIdx_eq_mapIdx_iff.2 fun i bound => ?_
  have candidate := @Candidate.mem_index_collect source ds _ _ (List.getElem?_eq_getElem bound)
  have accepted : accept 0 (Candidate.sorted (collect source 0 ds)) = chosen source ds := rfl
  simp only [settle, any_index, accepted, decide_eq_true_eq, candidate]

/-- If every edit that fits is made, the diagnostics that carry these edits learn so. -/
theorem diagnostics_of_chosen_perm (all : (chosen source ds).Perm (collect source 0 ds)) :
    (run source ds).diagnostics = ds.map fun d =>
      if d.edit.any (Edit.isValid source) then { d with status := .applied } else d := by
  rw [diagnostics_eq]
  refine List.ext_getElem (by simp) fun i bound _ => ?_
  simp only [List.length_mapIdx] at bound
  have candidate := @Candidate.mem_index_collect source ds _ _ (List.getElem?_eq_getElem bound)
  rw [← (all.map Candidate.index).mem_iff] at candidate
  simp only [List.getElem_mapIdx, List.getElem_map, candidate]
  split <;> rfl

theorem rule_of_mem {x : Diagnostic} (mem : x ∈ (run source ds).diagnostics) :
    ∃ d ∈ ds, x.rule = d.rule := by
  obtain ⟨i, d, found, rfl⟩ := mem_diagnostics mem
  exact ⟨d, List.mem_of_getElem? found, by rw [settle_eq]⟩

/-- A splice keeps statuses in step with edits: only candidates get a new status. -/
theorem status_eq_none_iff (inStep : ∀ d ∈ ds, d.status = .none ↔ d.edit = none) :
    ∀ x ∈ (run source ds).diagnostics, x.status = .none ↔ x.edit = none := by
  intro x mem
  obtain ⟨i, d, found, rfl⟩ := mem_diagnostics mem
  have carries {c : Candidate} (among : c ∈ collect source 0 ds) (index : c.index = i) :
      d.edit ≠ none := by
    obtain ⟨j, eq, other, there, edit, _⟩ := Candidate.exists_of_mem_collect among
    obtain rfl : i = j := by omega
    obtain rfl : d = other := by simpa [found] using there
    simp [edit]
  rw [edit_settle]
  unfold settle
  split
  · rename_i accepted
    obtain ⟨c, among, index⟩ := List.any_eq_true.1 accepted
    simpa using carries (mem_collect_of_mem_chosen among) (by simpa using index)
  split
  · rename_i candidate
    obtain ⟨c, among, index⟩ := List.any_eq_true.1 candidate
    simpa using carries among (by simpa using index)
  · exact inStep d (List.mem_of_getElem? found)

theorem settle_applied_iff (fresh : d.status ≠ .applied) (candidates accepted : List Candidate)
    (i : Nat) : (settle candidates accepted i d).status = .applied ↔
      i ∈ accepted.map Candidate.index := by
  unfold settle
  split
  · rename_i accepted
    simpa using accepted
  · rename_i refused
    split <;> simp_all

/-- Numbers below a bound, all different, are counted in the bound. -/
theorem countP_range_mem {numbers : List Nat} {n : Nat} (nodup : numbers.Nodup)
    (below : ∀ i ∈ numbers, i < n) :
    (List.range n).countP (fun i => i ∈ numbers) = numbers.length := by
  rw [List.countP_eq_length_filter]
  refine List.Perm.length_eq ((List.perm_ext_iff_of_nodup ?_ nodup).2 fun i => ?_)
  · exact List.nodup_range.filter _
  · simpa using below i

/-- A splice marks one diagnostic as applied for each edit that it makes. -/
theorem countP_applied (fresh : ∀ d ∈ ds, d.status ≠ .applied) :
    (run source ds).diagnostics.countP (fun d => d.status == .applied) =
      (run source ds).applied := by
  have below : ∀ i ∈ (chosen source ds).map Candidate.index, i < ds.length := by
    intro i mem
    obtain ⟨c, among, rfl⟩ := List.mem_map.1 mem
    obtain ⟨j, eq, d, found, _⟩ := Candidate.exists_of_mem_collect (mem_collect_of_mem_chosen among)
    have bound := (List.getElem?_eq_some_iff.1 found).1
    omega
  have marked : ∀ x ∈ ds.zipIdx,
      ((settle (collect source 0 ds) (chosen source ds) x.2 x.1).status == .applied) = true ↔
        decide (x.2 ∈ (chosen source ds).map Candidate.index) = true := by
    intro x mem
    rw [beq_iff_eq, decide_eq_true_iff]
    exact settle_applied_iff (fresh x.1 (List.fst_mem_of_mem_zipIdx mem)) _ _ _
  calc (run source ds).diagnostics.countP (fun d => d.status == .applied)
      = ds.zipIdx.countP fun x =>
          (settle (collect source 0 ds) (chosen source ds) x.2 x.1).status == .applied := by
        simp only [run, List.mapIdx_eq_zipIdx_map, List.countP_map]
        rfl
    _ = ds.zipIdx.countP fun x => decide (x.2 ∈ (chosen source ds).map Candidate.index) :=
        List.countP_congr marked
    _ = (List.range ds.length).countP
          fun i => decide (i ∈ (chosen source ds).map Candidate.index) := by
        rw [List.range_eq_range', ← List.zipIdx_map_snd, List.countP_map]
        rfl
    _ = (run source ds).applied := by
        rw [countP_range_mem chosen_indices_nodup below, List.length_map, applied_eq_length]

/-- Without a candidate, every diagnostic stays what it was. -/
theorem diagnostics_of_applied_eq_zero (nothing : (run source ds).applied = 0) :
    (run source ds).diagnostics = ds := by
  have candidates : collect source 0 ds = [] :=
    (Candidate.collect_eq_nil_iff 0).2 (applied_eq_zero_iff.1 nothing)
  have settled (i : Nat) : settle [] [] i = id := by
    funext d
    simp [settle]
  simp only [run, candidates, Candidate.sorted, List.mergeSort_nil, accept]
  exact List.mapIdx_eq_iff.2 fun i => by simp [settled]

/-- Each edit that fits is accepted or skipped. -/
theorem applied_add_skipped_eq_countP : (run source ds).applied + (run source ds).skipped =
    ds.countP fun d => d.edit.any (Edit.isValid source) := by
  have accepted : (chosen source ds).length ≤ (collect source 0 ds).length := by
    have sublist := Candidate.accept_sublist 0 (Candidate.sorted (collect source 0 ds))
    simpa [chosen, Candidate.sorted] using sublist.length_le
  have skipped : (run source ds).skipped =
      (collect source 0 ds).length - (chosen source ds).length := rfl
  rw [applied_eq_length, skipped, ← Candidate.length_collect 0]
  omega

section
variable (fits : ∀ d ∈ ds, ∀ e, d.edit = some e → e.isValid source = true)
include fits

/-- Each edit is accepted or skipped if all of them fit. -/
theorem applied_add_skipped :
    (run source ds).applied + (run source ds).skipped = ds.countP fun d => d.edit.isSome := by
  rw [applied_add_skipped_eq_countP]
  refine List.countP_congr fun d mem => ?_
  cases carried : d.edit with
  | none => simp
  | some e => simp [fits d mem e carried]

/-- No edit is left open if all of them fit. -/
theorem status_ne_available (open_ : ∀ d ∈ ds, d.status = .available → d.edit.isSome) :
    ∀ x ∈ (run source ds).diagnostics, x.status ≠ .available := by
  intro x mem
  obtain ⟨i, d, found, rfl⟩ := mem_diagnostics mem
  have among := List.mem_of_getElem? found
  unfold settle
  split
  · simp
  split
  · simp
  · rename_i refused
    intro available
    obtain ⟨e, carried⟩ := Option.isSome_iff_exists.1 (open_ d among available)
    have candidate := Candidate.mem_collect 0 found carried (fits d among e carried)
    exact refused (List.any_eq_true.2 ⟨_, candidate, by simp⟩)

end

end Splice

end ScriptLint
