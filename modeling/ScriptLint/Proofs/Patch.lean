import Mathlib.Data.List.Nodup
import ScriptLint.Proofs.Edit
import ScriptLint.Proofs.Splice
import ScriptLint.Proofs.Text.Stretch

/-!
# Patched texts

A patch is a stretch of a text with what is put in its place, if anything is. Patches in a row make
up a text, and their edits come in ascending order. However diagnostics carry these edits, a splice
accepts all of them and puts the new stretches in place of the old ones (`output_of_perm`), provided
that no two edits have one span: such edits are made in the order in which they were reported
(`output_of_eq`, `diagnostics_of_eq`).
-/

namespace ScriptLint

/-- A stretch of a text with what is put in its place. -/
structure Patch where
  old : Text
  new : Option Text

namespace Patch

def keep (t : Text) : Patch := ⟨t, none⟩

def change (old new : Text) : Patch := ⟨old, some new⟩

def result (p : Patch) : Text := p.new.getD p.old

/-- The text that patches are made to. -/
def source (ps : List Patch) : Text := ps.flatMap old

/-- The text that patches make. -/
def output (ps : List Patch) : Text := ps.flatMap result

theorem source_append (ps qs : List Patch) : source (ps ++ qs) = source ps ++ source qs :=
  List.flatMap_append

theorem output_append (ps qs : List Patch) : output (ps ++ qs) = output ps ++ output qs :=
  List.flatMap_append

/-- The edits of patches of a text that starts at an offset. -/
def edits (start : Nat) : List Patch → List Edit
  | [] => []
  | p :: ps =>
    (p.new.map fun text => ⟨⟨start, start + Text.size p.old⟩, text⟩).toList ++
      edits (start + Text.size p.old) ps

theorem edits_append (start : Nat) (ps qs : List Patch) :
    edits start (ps ++ qs) = edits start ps ++ edits (start + Text.size (source ps)) qs := by
  induction ps generalizing start with
  | nil => simp [edits, source]
  | cons p ps ih => simp [edits, source, ih, Nat.add_assoc]

/-- The edits of patches cut stretches out of their text. -/
theorem cuts_of_mem_edits {start : Nat} {ps : List Patch} {e : Edit} (mem : e ∈ edits start ps) :
    e.span.Cuts start (source ps) := by
  induction ps generalizing start with
  | nil => cases mem
  | cons p ps ih =>
    rcases List.mem_append.1 mem with here | later
    · obtain ⟨text, -, rfl⟩ : ∃ text, p.new = some text ∧
          ⟨⟨start, start + Text.size p.old⟩, text⟩ = e := by simpa using here
      exact ⟨[], p.old, source ps, rfl, rfl, rfl⟩
    · exact (ih later).behind

theorem isValid_of_mem_edits {ps : List Patch} {e : Edit} (mem : e ∈ edits 0 ps) :
    e.isValid (source ps) = true :=
  Edit.isValid_iff.2 (cuts_of_mem_edits mem).within

/-- Whether no two insertions of patches come at one place, nor the first one where something was
inserted before. -/
def Apart : (inserted : Bool) → List Patch → Prop
  | _, [] => True
  | inserted, p :: ps =>
    (p.new.isSome → p.old = [] → inserted = false) ∧
      Apart (p.old.isEmpty && (inserted || p.new.isSome)) ps

theorem start_le_of_mem_edits {start : Nat} {ps : List Patch} {e : Edit} (mem : e ∈ edits start ps) :
    start ≤ e.span.start := by
  obtain ⟨before, inside, after, -, begins, -⟩ := cuts_of_mem_edits mem
  omega

/-- No two edits of patches that are apart have one span. -/
theorem spans_nodup {inserted : Bool} {ps : List Patch} (apart : Apart inserted ps) (start : Nat) :
    ((edits start ps).map Edit.span).Nodup ∧
      (inserted = true → ⟨start, start⟩ ∉ (edits start ps).map Edit.span) := by
  induction ps generalizing start inserted with
  | nil => simp [edits]
  | cons p ps ih =>
    obtain ⟨here, later⟩ := apart
    obtain ⟨nodup, fresh⟩ := ih later (start + Text.size p.old)
    have behind : p.old ≠ [] → ∀ stop,
        ⟨start, stop⟩ ∉ (edits (start + Text.size p.old) ps).map Edit.span := by
      intro some stop mem
      obtain ⟨e, among, span⟩ := List.mem_map.1 mem
      have bound := start_le_of_mem_edits among
      have := Text.size_pos some
      simp only [span] at bound
      omega
    cases changed : p.new with
    | none =>
      simp only [edits, changed, Option.map_none, Option.toList_none, List.nil_append]
      refine ⟨nodup, fun set => ?_⟩
      by_cases none : p.old = []
      · simpa [none] using fresh (by simp [none, set])
      · exact behind none start
    | some text =>
      simp only [edits, changed, Option.map_some, Option.toList_some, List.cons_append,
        List.nil_append, List.map_cons, List.nodup_cons, List.mem_cons, not_or]
      by_cases none : p.old = []
      · have fresh := fresh (by simp [none, changed])
        simp only [none, Text.size_nil, Nat.add_zero] at fresh nodup ⊢
        exact ⟨⟨fresh, nodup⟩, fun set => by simp [here (by simp [changed]) none] at set⟩
      · have := Text.size_pos none
        refine ⟨⟨behind none _, nodup⟩, fun _ => ⟨?_, behind none start⟩⟩
        simp only [Span.mk.injEq, true_and]
        omega

theorem edits_ascend (start : Nat) (ps : List Patch) :
    (edits start ps).Pairwise fun a b => a.span.stop ≤ b.span.start := by
  induction ps generalizing start with
  | nil => exact .nil
  | cons p ps ih =>
    cases changed : p.new with
    | none => simpa [edits, changed] using ih _
    | some text =>
      simp only [edits, changed, Option.map_some, Option.toList_some, List.cons_append,
        List.nil_append, List.pairwise_cons]
      refine ⟨fun e mem => ?_, ih _⟩
      obtain ⟨before, -, -, -, begins, -⟩ := cuts_of_mem_edits mem
      simp only [begins]
      omega

/-- A text with the edits of patches put in, from an offset on that lies before the first patch. -/
theorem weave?_edits (before copied : Text) (ps : List Patch) :
    Edit.weave? (before ++ copied ++ source ps) (Text.size before)
        (edits (Text.size before + Text.size copied) ps) = some (copied ++ output ps) := by
  induction ps generalizing before copied with
  | nil =>
    have all := Text.slice?_of_parts before copied []
    simpa [edits, source, output, Edit.weave?] using all
  | cons p ps ih =>
    cases changed : p.new with
    | none =>
      have later := ih before (copied ++ p.old)
      simpa [edits, source, output, result, changed, Nat.add_assoc] using later
    | some text =>
      have later := ih (before ++ copied ++ p.old) []
      have copy := Text.slice?_of_parts before copied (p.old ++ source ps)
      simp only [edits, changed, Option.map_some, Option.toList_some, List.cons_append,
        List.nil_append, Edit.weave?, source, output, result, List.flatMap_cons, Option.getD_some,
        List.append_nil, Text.size_append, Text.size_nil, Nat.add_zero, List.append_assoc]
        at later copy ⊢
      rw [copy, Nat.add_assoc, later]
      simp

theorem applyAll_edits (ps : List Patch) : Edit.applyAll (source ps) (edits 0 ps) = output ps :=
  Edit.applyAll_of_weave? (by simpa using weave?_edits [] [] ps)

end Patch

namespace Candidate

/-- Edits that ascend from an offset on are all accepted. -/
theorem accept_of_ascending {stop : Nat} {cs : List Candidate}
    (behind : ∀ c ∈ cs, stop ≤ c.edit.span.start)
    (ascend : cs.Pairwise fun a b => a.edit.span.stop ≤ b.edit.span.start) :
    accept stop cs = cs := by
  induction cs generalizing stop with
  | nil => rfl
  | cons c cs ih =>
    obtain ⟨first, rest⟩ := List.pairwise_cons.1 ascend
    rw [accept, if_pos (behind c List.mem_cons_self), ih first rest]

end Candidate

namespace Span

theorem le_trans {a b c : Span} (first : a.le b = true) (second : b.le c = true) : a.le c = true := by
  simp only [le, Bool.or_eq_true, decide_eq_true_eq, Bool.and_eq_true, beq_iff_eq] at *
  omega

theorem le_total (a b : Span) : (a.le b || b.le a) = true := by
  simp only [le, Bool.or_eq_true, decide_eq_true_eq, Bool.and_eq_true, beq_iff_eq]
  omega

theorem le_antisymm {a b : Span} (first : a.le b = true) (second : b.le a = true) : a = b := by
  simp only [le, Bool.or_eq_true, decide_eq_true_eq, Bool.and_eq_true, beq_iff_eq] at first second
  cases a
  cases b
  simp only [Span.mk.injEq] at *
  omega

end Span

namespace Edit

theorem applyAll_nil (source : Text) : applyAll source [] = source :=
  applyAll_of_weave? (by simpa [weave?] using Text.slice?_of_parts [] source [])

/-- Edits that ascend come in the order of their spans. -/
theorem pairwise_le_of_ascend {edits : List Edit}
    (ordered : ∀ e ∈ edits, e.span.start ≤ e.span.stop)
    (ascend : edits.Pairwise fun a b => a.span.stop ≤ b.span.start) :
    edits.Pairwise fun a b => a.span.le b.span := by
  refine ascend.imp_of_mem fun {a b} memA memB le => ?_
  have := ordered a memA
  have := ordered b memB
  simp only [Span.le, Bool.or_eq_true, decide_eq_true_eq, Bool.and_eq_true, beq_iff_eq]
  omega

end Edit

theorem Candidate.pairwise_sorted (cs : List Candidate) :
    (sorted cs).Pairwise fun a b => a.edit.span.le b.edit.span := by
  refine List.pairwise_mergeSort ?_ ?_ _
  · exact fun _ _ _ => Span.le_trans
  · exact fun a b => Span.le_total a.edit.span b.edit.span

namespace Splice

variable {ps : List Patch} {ds : List Diagnostic}

theorem output_of_sorted
    (sorted : (Candidate.sorted (Candidate.collect (Patch.source ps) 0 ds)).map Candidate.edit =
      Patch.edits 0 ps) :
    (run (Patch.source ps) ds).output = Patch.output ps := by
  have accepted := Candidate.accept_of_ascending (fun _ _ => Nat.zero_le _)
    (List.pairwise_map.1 (sorted ▸ Patch.edits_ascend 0 ps))
  simp only [run, accepted, sorted, Patch.applyAll_edits]

theorem edits_sorted (ps : List Patch) :
    (Patch.edits 0 ps).Pairwise fun a b => a.span.le b.span :=
  Edit.pairwise_le_of_ascend (fun _ mem => (Patch.cuts_of_mem_edits mem).within.1)
    (Patch.edits_ascend 0 ps)

theorem fits_of_patches (carried : ∀ e ∈ ds.filterMap Diagnostic.edit, e ∈ Patch.edits 0 ps) :
    ∀ d ∈ ds, ∀ e, d.edit = some e → e.isValid (Patch.source ps) = true :=
  fun d mem e edit => Patch.isValid_of_mem_edits (carried e (List.mem_filterMap.2 ⟨d, mem, edit⟩))

/-- A splice of diagnostics that carry the edits of patches, in whatever order. -/
theorem output_of_perm (carried : (ds.filterMap Diagnostic.edit).Perm (Patch.edits 0 ps))
    (distinct : ((Patch.edits 0 ps).map Edit.span).Nodup) :
    (run (Patch.source ps) ds).output = Patch.output ps := by
  have edits := (Candidate.map_edit_collect 0).trans
    (offered_of_fits (fits_of_patches fun e mem => carried.subset mem))
  refine output_of_sorted (List.Perm.eq_of_pairwise ?_ ?_ (edits_sorted ps) ?_)
  · intro a b memA memB le ge
    refine List.inj_on_of_nodup_map distinct ?_ memB (Span.le_antisymm le ge)
    exact carried.subset (edits ▸ ((List.mergeSort_perm _ _).map _).subset memA)
  · exact List.pairwise_map.2 (Candidate.pairwise_sorted _)
  · refine ((List.mergeSort_perm _ _).map Candidate.edit).trans ?_
    rwa [edits]

/-- A splice that accepts nothing leaves the text as it is. -/
theorem output_of_applied_eq_zero {source : Text} (nothing : (run source ds).applied = 0) :
    (run source ds).output = source := by
  have none : chosen source ds = [] := by
    rwa [applied_eq_length, List.length_eq_zero_iff] at nothing
  have edits : (run source ds).output = Edit.applyAll source ((chosen source ds).map Candidate.edit) :=
    rfl
  rw [edits, none]
  exact Edit.applyAll_nil source

section
variable (carried : ds.filterMap Diagnostic.edit = Patch.edits 0 ps)
include carried

theorem map_edit_of_eq :
    (Candidate.collect (Patch.source ps) 0 ds).map Candidate.edit = Patch.edits 0 ps :=
  (Candidate.map_edit_collect 0).trans
    ((offered_of_fits (fits_of_patches fun _ mem => carried ▸ mem)).trans carried)

theorem sorted_of_eq : Candidate.sorted (Candidate.collect (Patch.source ps) 0 ds) =
    Candidate.collect (Patch.source ps) 0 ds :=
  List.mergeSort_of_pairwise (List.pairwise_map.1 (map_edit_of_eq carried ▸ edits_sorted ps))

/-- Edits that are reported in the order of the patches keep it, even those of one span. -/
theorem output_of_eq : (run (Patch.source ps) ds).output = Patch.output ps :=
  output_of_sorted (by rw [sorted_of_eq carried, map_edit_of_eq carried])

/-- Edits that are reported in the order of the patches are all made. -/
theorem diagnostics_of_eq : (run (Patch.source ps) ds).diagnostics =
    ds.map fun d => if d.edit.isSome then { d with status := .applied } else d := by
  have fits := fits_of_patches fun e mem => carried ▸ mem
  have accepted : chosen (Patch.source ps) ds = Candidate.collect (Patch.source ps) 0 ds := by
    rw [chosen, sorted_of_eq carried]
    exact Candidate.accept_of_ascending (fun _ _ => Nat.zero_le _)
      (List.pairwise_map.1 (map_edit_of_eq carried ▸ Patch.edits_ascend 0 ps))
  rw [diagnostics_of_chosen_perm (.of_eq accepted)]
  refine List.map_congr_left fun d mem => ?_
  cases edit : d.edit with
  | none => rfl
  | some e => simp [fits d mem e edit]

end

end Splice

end ScriptLint
