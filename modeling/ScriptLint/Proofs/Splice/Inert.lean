import ScriptLint.Proofs.Splice.Merging

/-!
# Edits that change nothing

An edit is inert if it puts in what it takes out. An edit that stands alone leaves the text as it is
only if it is inert (`Edit.applyAll_singleton_eq_iff`), and inert edits can be left out wherever they
stand (`Edit.applyAll_filter`). Several edits of which none is inert can still undo each other. Whether
they do is told by the one edit that they merge to, since that does what they do
(`Edit.exists_merge_of_ascend`).

`Splice.Reworks` puts this together for the edits that a splice makes (`Splice.reworks_made`).
-/

namespace ScriptLint

namespace Edit

variable {source : Text} {e : Edit}

/-- Whether an edit puts in what it takes out. -/
def Inert (source : Text) (e : Edit) : Prop :=
  Text.slice? source e.span.start e.span.stop = some e.text

instance (source : Text) (e : Edit) : Decidable (e.Inert source) :=
  inferInstanceAs (Decidable (_ = _))

/-- An edit that fits a text stands in place of a stretch of it. -/
theorem exists_parts_of_isValid (valid : e.isValid source = true) :
    ∃ before inside after, source = before ++ inside ++ after ∧
      e.span = ⟨Text.size before, Text.size before + Text.size inside⟩ := by
  obtain ⟨ordered, -, starts, stops⟩ := isValid_iff.1 valid
  obtain ⟨before, rest, cut, start⟩ := Text.isBoundary_iff.1 starts
  obtain ⟨front, after, cut', stop⟩ := Text.isBoundary_iff.1 stops
  obtain ⟨inside, rfl, rfl⟩ := Text.exists_between (cut.symm.trans cut') (by omega)
  refine ⟨before, inside, after, cut', ?_⟩
  rw [← Text.size_append, ← start, ← stop]

/-- A single edit leaves the text as it is if and only if it is inert. -/
theorem applyAll_singleton_eq_iff (valid : e.isValid source = true) :
    applyAll source [e] = source ↔ e.Inert source := by
  obtain ⟨before, inside, after, rfl, span⟩ := exists_parts_of_isValid valid
  have made := Patch.applyAll_edits [.keep before, .change inside e.text, .keep after]
  have old := Text.slice?_of_parts before inside after
  simp only [Patch.source, Patch.edits, Patch.output, Patch.result, Patch.keep, Patch.change,
    List.flatMap_cons, List.flatMap_nil, List.append_nil, Option.map_none, Option.map_some,
    Option.toList_none, Option.toList_some, List.nil_append, Nat.zero_add, Option.getD_none,
    Option.getD_some, ← span, ← List.append_assoc] at made
  rw [made, Inert, span, old, List.append_left_inj, List.append_right_inj, Option.some.injEq,
    eq_comm]

end Edit

namespace Patch

/-- A patch with its change left out if that puts in what it takes out. -/
def quiet (p : Patch) : Patch := if p.new = some p.old then keep p.old else p

theorem old_quiet (p : Patch) : p.quiet.old = p.old := by
  unfold quiet
  split <;> rfl

theorem result_quiet (p : Patch) : p.quiet.result = p.result := by
  unfold quiet
  split
  · rename_i same
    simp [result, keep, same]
  · rfl

/-- The edits that are left are those that are not inert. -/
theorem edits_quiet (before : Text) (ps : List Patch) :
    edits (Text.size before) (ps.map quiet) =
      (edits (Text.size before) ps).filter fun e => ¬ e.Inert (before ++ source ps) := by
  induction ps generalizing before with
  | nil => rfl
  | cons p ps ih =>
    have later := ih (before ++ p.old)
    have old := Text.slice?_of_parts before p.old (source ps)
    have whole : before ++ source (p :: ps) = before ++ p.old ++ source ps := by
      rw [List.append_assoc]
      rfl
    rw [Text.size_append] at later
    rw [List.map_cons, edits, edits, old_quiet, later, whole, List.filter_append]
    congr 1
    cases changed : p.new with
    | none => simp [quiet, changed]
    | some text =>
      have inert : Edit.Inert (before ++ p.old ++ source ps)
          ⟨⟨Text.size before, Text.size before + Text.size p.old⟩, text⟩ ↔ text = p.old := by
        rw [Edit.Inert, old, Option.some.injEq, eq_comm]
      by_cases same : text = p.old
      · subst same
        simp [quiet, changed, keep, inert, -List.append_assoc]
      · simp [quiet, changed, inert, same, -List.append_assoc]

end Patch

namespace Edit

section
variable {source : Text} {edits : List Edit} (fits : ∀ e ∈ edits, e.isValid source = true)
  (ascend : edits.Pairwise fun a b => a.span.stop ≤ b.span.start)
include fits ascend

/-- Inert edits can be left out. -/
theorem applyAll_filter :
    applyAll source (edits.filter fun e => ¬ e.Inert source) = applyAll source edits := by
  obtain ⟨ps, rfl, rfl⟩ := Patch.exists_edits_zero_eq fits ascend
  have texts : Patch.source (ps.map Patch.quiet) = Patch.source ps := by
    simp only [Patch.source, List.flatMap_map, Patch.old_quiet]
  have results : Patch.output (ps.map Patch.quiet) = Patch.output ps := by
    simp only [Patch.output, List.flatMap_map, Patch.result_quiet]
  have left := Patch.edits_quiet [] ps
  rw [List.nil_append, Text.size_nil] at left
  rw [← left, Patch.applyAll_edits, ← results, ← Patch.applyAll_edits, texts]

/-- Edits that ascend merge, and the merged edit does what they do. -/
theorem exists_merge_of_ascend (nonempty : edits ≠ []) :
    ∃ merged, merge source edits = .ok (some merged) ∧ merged.isValid source = true ∧
      applyAll source [merged] = applyAll source edits := by
  match edits, nonempty with
  | [e], _ => exact ⟨e, rfl, fits e List.mem_cons_self, rfl⟩
  | a :: b :: edits, _ =>
    have ordered : ∀ e ∈ a :: b :: edits, e.span.start ≤ e.span.stop :=
      fun e mem => (isValid_iff.1 (fits e mem)).1
    have inOrder : sorted (a :: b :: edits) = a :: b :: edits :=
      List.mergeSort_of_pairwise (pairwise_le_of_ascend ordered ascend)
    obtain ⟨first, rest, eq, merged⟩ := exists_merge_eq (by simp) fits
    rw [if_pos (by rwa [inOrder, ascending_iff ordered])] at merged
    refine ⟨_, merged, isValid_merge fits merged, ?_⟩
    rw [applyAll_woven, ← eq, inOrder]

end

/-- Two edits that undo each other, though none of them is inert. -/
example : let edits := [insert 0 ['a'], remove ⟨1, 2⟩]
    (∀ e ∈ edits, ¬ e.Inert ['a', 'a']) ∧ applyAll ['a', 'a'] edits = ['a', 'a'] := by decide

end Edit

namespace Splice

variable {source : Text} {ds : List Diagnostic} {e : Edit}

/-- The edits that a splice makes, in the order of their spans. -/
def made (source : Text) (ds : List Diagnostic) : List Edit :=
  (chosen source ds).map Candidate.edit

theorem output_eq_applyAll : (run source ds).output = Edit.applyAll source (made source ds) := rfl

theorem isValid_of_mem_made : ∀ e ∈ made source ds, e.isValid source = true := by
  intro e mem
  obtain ⟨c, among, rfl⟩ := List.mem_map.1 mem
  exact isValid_of_mem_chosen among

theorem made_ascend : (made source ds).Pairwise fun a b => a.span.stop ≤ b.span.start :=
  List.pairwise_map.2 chosen_ascend

/-- The edits that are made are those of the diagnostics that say so. -/
theorem mem_made_iff (fresh : ∀ d ∈ ds, d.status ≠ .applied) :
    e ∈ made source ds ↔
      ∃ d ∈ (run source ds).diagnostics, d.status = .applied ∧ d.edit = some e := by
  constructor
  · intro mem
    obtain ⟨c, among, rfl⟩ := List.mem_map.1 mem
    obtain ⟨i, index, d, found, carried, -⟩ :=
      Candidate.exists_of_mem_collect (mem_collect_of_mem_chosen among)
    rw [Nat.zero_add] at index
    have taken : i ∈ (chosen source ds).map Candidate.index :=
      List.mem_map.2 ⟨c, among, index⟩
    have settled : (run source ds).diagnostics[i]? = some { d with status := .applied } := by
      rw [diagnostics_eq, List.getElem?_mapIdx, found, Option.map_some, if_pos taken]
    exact ⟨_, List.mem_of_getElem? settled, rfl, carried⟩
  · rintro ⟨x, mem, applied, carried⟩
    obtain ⟨i, d, found, rfl⟩ := mem_diagnostics mem
    have taken := (settle_applied_iff (fresh d (List.mem_of_getElem? found)) _ _ _).1 applied
    obtain ⟨c, among, rfl⟩ := List.mem_map.1 taken
    obtain ⟨j, index, other, there, edit, -⟩ :=
      Candidate.exists_of_mem_collect (mem_collect_of_mem_chosen among)
    obtain rfl : other = d := by simpa [index, there] using found
    rw [edit_settle, edit] at carried
    exact List.mem_map.2 ⟨c, among, Option.some.inj carried⟩

/-- The edits that are made merge, and the text stays if and only if the merged edit is inert. -/
theorem exists_merge_made (applied : (run source ds).applied ≠ 0) :
    ∃ merged, Edit.merge source (made source ds) = .ok (some merged) ∧
      ((run source ds).output = source ↔ merged.Inert source) := by
  have nonempty : made source ds ≠ [] := by
    rw [applied_eq_length] at applied
    simpa [made] using applied
  obtain ⟨merged, ok, valid, same⟩ :=
    Edit.exists_merge_of_ascend isValid_of_mem_made made_ascend nonempty
  exact ⟨merged, ok, by rw [output_eq_applyAll, ← same, Edit.applyAll_singleton_eq_iff valid]⟩

/-- Only the edits that are not inert matter to the text. -/
theorem output_eq_applyAll_filter : (run source ds).output =
    Edit.applyAll source ((made source ds).filter fun e => ¬ e.Inert source) :=
  (Edit.applyAll_filter isValid_of_mem_made made_ascend).symm

theorem output_of_inert (inert : ∀ e ∈ made source ds, e.Inert source) :
    (run source ds).output = source := by
  have none : (made source ds).filter (fun e => ¬ e.Inert source) = [] := by
    apply List.filter_eq_nil_iff.2
    intro e mem
    simpa using inert e mem
  rw [output_eq_applyAll_filter, none, Edit.applyAll_nil]

theorem output_ne_of_countP_eq_one
    (one : (made source ds).countP (fun e => ¬ e.Inert source) = 1) :
    (run source ds).output ≠ source := by
  intro same
  rw [List.countP_eq_length_filter] at one
  obtain ⟨e, single⟩ := List.length_eq_one_iff.1 one
  obtain ⟨mem, moves⟩ := List.mem_filter.1 (single ▸ List.mem_singleton_self e)
  rw [output_eq_applyAll_filter, single,
    Edit.applyAll_singleton_eq_iff (isValid_of_mem_made e mem)] at same
  simp [same] at moves

/-- What the edits that diagnostics report as made do to a text. -/
structure Reworks (source output : Text) (reported : List Diagnostic) (edits : List Edit) : Prop where
  mem_iff : ∀ e, e ∈ edits ↔ ∃ d ∈ reported, d.status = .applied ∧ d.edit = some e
  /-- The text stays if and only if the edits, merged into one, put in what they take out. -/
  merges : ∃ merged, Edit.merge source edits = .ok (some merged) ∧
    (output = source ↔ merged.Inert source)
  /-- The text stays if each edit puts in what it takes out. -/
  stays : (∀ e ∈ edits, e.Inert source) → output = source
  /-- The text changes if exactly one edit puts in something else. -/
  changes : (edits.countP fun e => ¬ e.Inert source) = 1 → output ≠ source

theorem reworks_made (fresh : ∀ d ∈ ds, d.status ≠ .applied)
    (applied : (run source ds).applied ≠ 0) :
    Reworks source (run source ds).output (run source ds).diagnostics (made source ds) where
  mem_iff _ := mem_made_iff fresh
  merges := exists_merge_made applied
  stays := output_of_inert
  changes := output_ne_of_countP_eq_one

end Splice

end ScriptLint
