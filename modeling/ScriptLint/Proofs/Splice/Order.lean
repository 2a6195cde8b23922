import ScriptLint.Proofs.Splice.Sequential

/-!
# The order of reports

If no two edits that fit have one span, a splice does not depend on the order in which the edits were
reported (`Splice.run_perm`): there is only one way to sort them, and what is accepted of sorted
candidates is told by their edits (`Candidate.map_edit_accept`). What becomes of a diagnostic is then
told by its edit alone (`Splice.mem_index_chosen_iff`).
-/

namespace ScriptLint

variable {source : Text} {ds ds' : List Diagnostic}

namespace Candidate

variable {cs cs' : List Candidate}

/-- Which edits are accepted does not depend on the numbers of the candidates. -/
theorem map_edit_accept (stop : Nat) (same : cs.map Candidate.edit = cs'.map Candidate.edit) :
    (accept stop cs).map Candidate.edit = (accept stop cs').map Candidate.edit := by
  induction cs generalizing stop cs' with
  | nil => simp_all
  | cons c cs ih =>
    cases cs' with
    | nil => simp at same
    | cons c' cs' =>
      obtain ⟨here, later⟩ := List.cons.inj same
      unfold accept
      rw [← here]
      split
      · simp [here, ih _ later]
      · exact ih stop later

/-- Edits with different spans can be sorted in one way only. -/
theorem map_edit_sorted (perm : (cs.map Candidate.edit).Perm (cs'.map Candidate.edit))
    (distinct : ((cs.map Candidate.edit).map Edit.span).Nodup) :
    (sorted cs).map Candidate.edit = (sorted cs').map Candidate.edit := by
  have among (xs : List Candidate) : ((sorted xs).map Candidate.edit).Perm (xs.map Candidate.edit) :=
    (List.mergeSort_perm _ _).map _
  have ascend (xs : List Candidate) :
      ((sorted xs).map Candidate.edit).Pairwise fun a b => a.span.le b.span = true :=
    List.pairwise_map.2 (pairwise_sorted xs)
  refine List.Perm.eq_of_pairwise ?_ (ascend cs) (ascend cs')
    ((among cs).trans (perm.trans (among cs').symm))
  intro a b memA memB le ge
  exact List.inj_on_of_nodup_map distinct ((among cs).subset memA)
    (perm.symm.subset ((among cs').subset memB)) (Span.le_antisymm le ge)

end Candidate

namespace Splice

theorem offered_perm (perm : ds.Perm ds') : (offered source ds).Perm (offered source ds') :=
  (perm.filterMap _).filter _

section
variable (distinct : ((offered source ds).map Edit.span).Nodup)
include distinct

theorem map_edit_chosen (perm : ds.Perm ds') :
    (chosen source ds).map Candidate.edit = (chosen source ds').map Candidate.edit := by
  refine Candidate.map_edit_accept 0 (Candidate.map_edit_sorted ?_ ?_)
  · rw [Candidate.map_edit_collect, Candidate.map_edit_collect]
    exact offered_perm perm
  · rwa [Candidate.map_edit_collect]

/-- A diagnostic is chosen if its edit is. -/
theorem mem_index_chosen_iff {i : Nat} {d : Diagnostic} (found : ds[i]? = some d) :
    i ∈ (chosen source ds).map Candidate.index ↔
      d.edit.any (· ∈ (chosen source ds).map Candidate.edit) = true := by
  simp only [Option.any_eq_true, decide_eq_true_eq]
  constructor
  · intro mem
    obtain ⟨c, among, rfl⟩ := List.mem_map.1 mem
    obtain ⟨i, index, x, there, carried, -⟩ :=
      Candidate.exists_of_mem_collect (mem_collect_of_mem_chosen among)
    obtain rfl : d = x := by simpa [index, there, eq_comm] using found
    exact ⟨c.edit, carried, List.mem_map.2 ⟨c, among, rfl⟩⟩
  · rintro ⟨e, carried, mem⟩
    obtain ⟨c, among, rfl⟩ := List.mem_map.1 mem
    -- the diagnostic's own candidate has the span of the chosen one, and no two candidates share one
    have own : ⟨i, c.edit⟩ ∈ Candidate.collect source 0 ds := by
      simpa using Candidate.mem_collect 0 found carried (isValid_of_mem_chosen among)
    rw [← Candidate.map_edit_collect 0, List.map_map] at distinct
    have same := List.inj_on_of_nodup_map distinct own (mem_collect_of_mem_chosen among) rfl
    exact List.mem_map.2 ⟨c, among, same ▸ rfl⟩

/-- What becomes of a diagnostic, by its edit. -/
theorem getElem?_diagnostics (i : Nat) : (run source ds).diagnostics[i]? = ds[i]?.map fun d =>
    if d.edit.any (· ∈ (chosen source ds).map Candidate.edit) then { d with status := .applied }
    else if d.edit.any (Edit.isValid source) then { d with status := .skippedConflict } else d := by
  rw [diagnostics_eq, List.getElem?_mapIdx]
  cases found : ds[i]? with
  | none => rfl
  | some d => simp only [Option.map_some, mem_index_chosen_iff distinct found]

end

/-- A splice does not depend on the order in which edits were reported, if no two edits that fit have
one span. In any other order it gives the same text and accepts the same spans, it skips as many
edits, and each diagnostic ends with the same status. -/
theorem run_perm (source : Text) {ds ds' : List Diagnostic} (perm : ds.Perm ds')
    (distinct : ((offered source ds).map Edit.span).Nodup) :
    (run source ds').output = (run source ds).output ∧
      (run source ds').accepted = (run source ds).accepted ∧
      (run source ds').skipped = (run source ds).skipped ∧
      ∀ i j : Nat, ds'[j]? = ds[i]? →
        (run source ds').diagnostics[j]? = (run source ds).diagnostics[i]? := by
  have edits := map_edit_chosen distinct perm
  have distinct' := (((offered_perm perm).map Edit.span).nodup_iff).1 distinct
  have accepted : (run source ds').accepted = (run source ds).accepted :=
    congrArg (List.map Edit.span) edits.symm
  refine ⟨congrArg (Edit.applyAll source) edits.symm, accepted, ?_, fun i j same => ?_⟩
  · have total := perm.countP_eq fun d => d.edit.any (Edit.isValid source)
    rw [← applied_add_skipped_eq_countP, ← applied_add_skipped_eq_countP, applied, applied,
      accepted] at total
    omega
  · rw [getElem?_diagnostics distinct', getElem?_diagnostics distinct, edits, same]

/-- Two edits that share a byte, one that touches the second, and one that does not fit. -/
def clashing : List Diagnostic :=
  [Edit.replace ⟨1, 3⟩ ['x'], .replace ⟨0, 2⟩ [], .insert 3 ['y'], .insert 9 []].map fun e =>
    (Diagnostic.new "" "" .error "" .nowhere).withEdit (some e)

theorem run_perm_clashing :
    ((offered ['a', 'b', 'c'] clashing).map Edit.span).Nodup ∧
      (run ['a', 'b', 'c'] clashing.reverse).output = (run ['a', 'b', 'c'] clashing).output ∧
      (run ['a', 'b', 'c'] clashing.reverse).accepted = (run ['a', 'b', 'c'] clashing).accepted ∧
      (run ['a', 'b', 'c'] clashing.reverse).skipped = (run ['a', 'b', 'c'] clashing).skipped ∧
      (run ['a', 'b', 'c'] clashing.reverse).diagnostics[3]? =
        (run ['a', 'b', 'c'] clashing).diagnostics[0]? := by
  have distinct : ((offered ['a', 'b', 'c'] clashing).map Edit.span).Nodup := by decide
  obtain ⟨output, accepted, skipped, statuses⟩ :=
    run_perm ['a', 'b', 'c'] clashing.reverse_perm.symm distinct
  exact ⟨distinct, output, accepted, skipped, statuses 0 3 rfl⟩

end Splice

end ScriptLint
