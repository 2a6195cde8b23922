import Mathlib.Data.List.Pairwise
import ScriptLint.Proofs.Patch

/-!
# A splice makes its edits one by one

`Splice.Makes` says what a splice owes to the edits that its diagnostics carry, fitting or not: which
of them it makes, that its one walk over the text cuts only where it can and ends with the text that
the edits give one at a time from the last to the first, which edits it skips, and what becomes of
the diagnostics. Every splice does that (`run_makes`).

Which candidates are accepted is told by two facts on sorted ones: accepted candidates ascend
(`Candidate.accept_ascends`), and a refused one shares a byte with an accepted one
(`Candidate.overlaps_of_not_mem_accept`). The texts come from patches: ascending edits that fit are
the edits of patches (`Patch.exists_edits_eq`).
-/

namespace ScriptLint

namespace Edit

theorem overlaps_comm (a b : Edit) : a.overlaps b = b.overlaps a := Bool.and_comm _ _

theorem overlaps_eq_false_of_le {a b : Edit} (le : a.span.stop ≤ b.span.start) :
    a.overlaps b = false := by
  simp only [overlaps, Bool.and_eq_false_iff, decide_eq_false_iff_not]
  omega

/-- An edit that starts before the end of one that is not behind it shares a byte with it. -/
theorem overlaps_of_le {a b : Edit} (ordered : b.span.start ≤ b.span.stop)
    (le : a.span.le b.span = true) (before : b.span.start < a.span.stop) : a.overlaps b = true := by
  simp only [Span.le, Bool.or_eq_true, decide_eq_true_eq, Bool.and_eq_true, beq_iff_eq] at le
  simp only [overlaps, Bool.and_eq_true, decide_eq_true_eq]
  omega

theorem applyTo?_of_parts (before inside after text : Text) :
    applyTo? ⟨⟨Text.size before, Text.size before + Text.size inside⟩, text⟩ (before ++ inside ++ after) =
      some (before ++ text ++ after) := by
  have front := Text.slice?_of_parts [] before (inside ++ after)
  have middle := Text.slice?_of_parts before inside after
  have back := Text.slice?_of_parts (before ++ inside) after []
  simp only [List.nil_append, List.append_nil, List.append_assoc, Text.size_nil, Nat.zero_add,
    Text.size_append, Nat.add_assoc] at front middle back
  simp [applyTo?, front, middle, back]

end Edit

namespace Patch

/-- The edits of patches, made one by one from the last to the first. -/
theorem foldrM_applyTo?_edits (before : Text) (ps : List Patch) :
    (edits (Text.size before) ps).foldrM Edit.applyTo? (before ++ source ps) =
      some (before ++ output ps) := by
  induction ps generalizing before with
  | nil => rfl
  | cons p ps ih =>
    have later := ih (before ++ p.old)
    cases changed : p.new with
    | none =>
      simpa [edits, source, output, result, changed] using later
    | some text =>
      have here := Edit.applyTo?_of_parts before p.old (output ps) text
      simp only [edits, changed, Option.map_some, Option.toList_some, List.cons_append,
        List.nil_append, List.foldrM_cons, source, output, result, List.flatMap_cons,
        Option.getD_some, List.append_assoc, Text.size_append] at later here ⊢
      rw [later]
      exact here

/-- Edits that fit a text and ascend, from the end of a part of the text on, are those of patches. -/
theorem exists_edits_eq {before rest : Text} {es : List Edit}
    (fits : ∀ e ∈ es, e.isValid (before ++ rest) = true)
    (behind : ∀ e ∈ es, Text.size before ≤ e.span.start)
    (ascend : es.Pairwise fun a b => a.span.stop ≤ b.span.start) :
    ∃ ps, source ps = rest ∧ edits (Text.size before) ps = es := by
  induction es generalizing before rest with
  | nil => exact ⟨[keep rest], by simp [source, keep], rfl⟩
  | cons e es ih =>
    obtain ⟨first, ascend⟩ := List.pairwise_cons.1 ascend
    obtain ⟨ordered, -, starts, stops⟩ := Edit.isValid_iff.1 (fits e List.mem_cons_self)
    obtain ⟨front, back, cut, start⟩ := Text.isBoundary_iff.1 starts
    obtain ⟨front', back', cut', stop⟩ := Text.isBoundary_iff.1 stops
    have begins := behind e List.mem_cons_self
    -- the two ends of the edit tell what is copied before it and what it stands in place of
    obtain ⟨copied, rfl, rfl⟩ := Text.exists_between cut (by omega)
    obtain ⟨inside, rfl, rfl⟩ := Text.exists_between (cut.symm.trans cut') (by omega)
    obtain ⟨ps, rfl, made⟩ := @ih (before ++ copied ++ inside) back'
      (fun e mem => by simpa using fits e (List.mem_cons_of_mem _ mem))
      (fun x mem => stop ▸ first x mem) ascend
    refine ⟨keep copied :: change inside e.text :: ps, by simp [source, keep, change], ?_⟩
    have span : e.span = ⟨Text.size before + Text.size copied,
        Text.size before + Text.size copied + Text.size inside⟩ := by
      rw [← Text.size_append, ← Text.size_append, ← start, ← stop]
    simp only [edits, keep, change, Option.map_none, Option.toList_none, Option.map_some,
      Option.toList_some, List.nil_append, List.cons_append]
    rw [← span, ← made]
    simp only [Text.size_append]

/-- Edits that fit a text and ascend are those of patches of the text. -/
theorem exists_edits_zero_eq {t : Text} {es : List Edit} (fits : ∀ e ∈ es, e.isValid t = true)
    (ascend : es.Pairwise fun a b => a.span.stop ≤ b.span.start) :
    ∃ ps, source ps = t ∧ edits 0 ps = es :=
  @exists_edits_eq [] t es fits (fun _ _ => Nat.zero_le _) ascend

end Patch

namespace Candidate

variable {source : Text} {ds : List Diagnostic} {cs : List Candidate} {c : Candidate}

theorem ordered_of_mem_collect (mem : c ∈ collect source 0 ds) :
    c.edit.span.start ≤ c.edit.span.stop := by
  obtain ⟨-, -, -, -, -, valid⟩ := exists_of_mem_collect mem
  exact (Edit.isValid_iff.1 valid).1

/-- Candidates of one number are one candidate. -/
theorem eq_of_index_eq {d : Candidate} (memC : c ∈ collect source 0 ds) (memD : d ∈ collect source 0 ds)
    (same : c.index = d.index) : c = d := by
  obtain ⟨i, index, x, found, edit, -⟩ := exists_of_mem_collect memC
  obtain ⟨j, index', y, found', edit', -⟩ := exists_of_mem_collect memD
  obtain rfl : i = j := by omega
  obtain rfl : x = y := by simpa [found] using found'
  cases c
  cases d
  simp_all

/-- Accepted candidates start behind the offset and ascend. -/
theorem accept_ascends {stop : Nat} (ordered : ∀ c ∈ cs, c.edit.span.start ≤ c.edit.span.stop) :
    (∀ c ∈ accept stop cs, stop ≤ c.edit.span.start) ∧
      (accept stop cs).Pairwise fun a b => a.edit.span.stop ≤ b.edit.span.start := by
  induction cs generalizing stop with
  | nil => simp [accept]
  | cons c cs ih =>
    have here := ordered c List.mem_cons_self
    have later := fun stop => @ih stop fun x mem => ordered x (List.mem_cons_of_mem c mem)
    unfold accept
    split
    · rename_i behind
      obtain ⟨starts, ascend⟩ := later c.edit.span.stop
      refine ⟨fun x mem => ?_, List.pairwise_cons.2 ⟨starts, ascend⟩⟩
      rcases List.mem_cons.1 mem with rfl | mem
      · exact behind
      · exact Nat.le_trans behind (Nat.le_trans here (starts x mem))
    · exact later stop

/-- A candidate that is refused starts too early, or it shares a byte with an accepted one. -/
theorem overlaps_of_not_mem_accept {stop : Nat}
    (ordered : ∀ c ∈ cs, c.edit.span.start ≤ c.edit.span.stop)
    (sorted : cs.Pairwise fun a b => a.edit.span.le b.edit.span = true) (mem : c ∈ cs)
    (refused : c ∉ accept stop cs) :
    c.edit.span.start < stop ∨ ∃ a ∈ accept stop cs, a.edit.overlaps c.edit = true := by
  induction cs generalizing stop with
  | nil => cases mem
  | cons x cs ih =>
    obtain ⟨first, sorted⟩ := List.pairwise_cons.1 sorted
    have later := fun stop => @ih stop (fun y mem => ordered y (List.mem_cons_of_mem x mem)) sorted
    unfold accept at refused ⊢
    split at refused
    · rename_i behind
      rw [if_pos behind]
      simp only [List.mem_cons, not_or] at refused
      have mem := (List.mem_cons.1 mem).resolve_left refused.1
      rcases later _ mem refused.2 with early | ⟨a, accepted, shared⟩
      · -- sorted behind the accepted one, it starts before that one's end
        have shared := Edit.overlaps_of_le (ordered c (List.mem_cons_of_mem x mem)) (first c mem) early
        exact .inr ⟨x, List.mem_cons_self, shared⟩
      · exact .inr ⟨a, List.mem_cons_of_mem x accepted, shared⟩
    · rename_i early
      rw [if_neg early]
      rcases List.mem_cons.1 mem with rfl | mem
      · exact .inl (Nat.lt_of_not_le early)
      · exact later stop mem refused

end Candidate

namespace Splice

variable {source : Text} {ds : List Diagnostic}

/-- A splice of a text and the diagnostics of a pass makes the edits of the taken candidates and no
others. -/
structure Makes (source : Text) (ds : List Diagnostic) (s : Splice) (taken : List Candidate) : Prop where
  /-- The taken candidates are the edits of different diagnostics. -/
  carried : ∀ c ∈ taken, ∃ d, ds[c.index]? = some d ∧ d.edit = some c.edit
  nodup : (taken.map Candidate.index).Nodup
  /-- Their spans are the accepted ones: they fit the text, ascend, and share no byte. -/
  accepted : s.accepted = taken.map fun c => c.edit.span
  fits : ∀ c ∈ taken, c.edit.isValid source = true
  ascend : taken.Pairwise fun a b => a.edit.span.stop ≤ b.edit.span.start
  apart : taken.Pairwise fun a b => a.edit.overlaps b.edit = false
  /-- The walk over the text cuts only where it can. -/
  woven : Edit.weave? source 0 (taken.map Candidate.edit) = some s.output
  /-- The edits made one at a time from the last to the first give the same text. -/
  sequential : (taken.map Candidate.edit).foldrM Edit.applyTo? source = some s.output
  /-- An edit that fits is skipped if and only if it shares a byte with another one that is made. -/
  skipped_iff : ∀ i d e, ds[i]? = some d → d.edit = some e → e.isValid source = true →
    (i ∉ taken.map Candidate.index ↔ ∃ c ∈ taken, c.index ≠ i ∧ e.overlaps c.edit = true)
  counted : s.applied + s.skipped = ds.countP fun d => d.edit.any (Edit.isValid source)
  /-- Only statuses change, and only those of diagnostics whose edits fit. -/
  settled : s.diagnostics = ds.mapIdx fun i d =>
    if i ∈ taken.map Candidate.index then { d with status := .applied }
    else if d.edit.any (Edit.isValid source) then { d with status := .skippedConflict } else d

theorem ordered_sorted :
    ∀ c ∈ Candidate.sorted (Candidate.collect source 0 ds), c.edit.span.start ≤ c.edit.span.stop :=
  fun _ mem => Candidate.ordered_of_mem_collect (List.mem_mergeSort.1 mem)

theorem chosen_ascend :
    (chosen source ds).Pairwise fun a b => a.edit.span.stop ≤ b.edit.span.start :=
  (Candidate.accept_ascends ordered_sorted).2

theorem chosen_apart : (chosen source ds).Pairwise fun a b => a.edit.overlaps b.edit = false :=
  chosen_ascend.imp Edit.overlaps_eq_false_of_le

theorem isValid_of_mem_chosen {c : Candidate} (mem : c ∈ chosen source ds) :
    c.edit.isValid source = true := by
  obtain ⟨-, -, -, -, -, valid⟩ := Candidate.exists_of_mem_collect (mem_collect_of_mem_chosen mem)
  exact valid

/-- The chosen edits are the edits of patches of the text. -/
theorem exists_patches :
    ∃ ps, Patch.source ps = source ∧ Patch.edits 0 ps = (chosen source ds).map Candidate.edit := by
  refine Patch.exists_edits_zero_eq ?_ (List.pairwise_map.2 chosen_ascend)
  intro e mem
  obtain ⟨c, among, rfl⟩ := List.mem_map.1 mem
  exact isValid_of_mem_chosen among

theorem not_mem_chosen_iff {i : Nat} {d : Diagnostic} {e : Edit} (found : ds[i]? = some d)
    (carried : d.edit = some e) (valid : e.isValid source = true) :
    i ∉ (chosen source ds).map Candidate.index ↔
      ∃ c ∈ chosen source ds, c.index ≠ i ∧ e.overlaps c.edit = true := by
  have candidate : ⟨i, e⟩ ∈ Candidate.collect source 0 ds := by
    simpa using Candidate.mem_collect 0 found carried valid
  constructor
  · intro refused
    have rejected : ⟨i, e⟩ ∉ Candidate.accept 0 (Candidate.sorted (Candidate.collect source 0 ds)) :=
      fun mem => refused (List.mem_map.2 ⟨_, mem, rfl⟩)
    rcases Candidate.overlaps_of_not_mem_accept ordered_sorted (Candidate.pairwise_sorted _)
      (List.mem_mergeSort.2 candidate) rejected with early | ⟨c, mem, shared⟩
    · exact absurd early (Nat.not_lt_zero _)
    · refine ⟨c, mem, ?_, Edit.overlaps_comm _ _ ▸ shared⟩
      rintro rfl
      exact refused (List.mem_map.2 ⟨c, mem, rfl⟩)
  · rintro ⟨c, mem, other, shared⟩ taken
    obtain ⟨x, among, index⟩ := List.mem_map.1 taken
    obtain rfl : x = ⟨i, e⟩ :=
      Candidate.eq_of_index_eq (mem_collect_of_mem_chosen among) candidate index
    have symm : Std.Symm fun a b : Candidate => a.edit.overlaps b.edit = false :=
      ⟨fun a b apart => Edit.overlaps_comm a.edit b.edit ▸ apart⟩
    have apart := chosen_apart.forall among mem fun same => other (same ▸ rfl)
    simp [apart] at shared

theorem run_makes (source : Text) (ds : List Diagnostic) :
    ∃ taken, Makes source ds (run source ds) taken := by
  obtain ⟨ps, text, edits⟩ := @exists_patches source ds
  have output : (run source ds).output = Patch.output ps := by
    rw [← Patch.applyAll_edits, text, edits]
    rfl
  refine ⟨chosen source ds, {
    carried := ?_
    nodup := chosen_indices_nodup
    accepted := by simp [run, chosen]
    fits := fun _ => isValid_of_mem_chosen
    ascend := chosen_ascend
    apart := chosen_apart
    woven := ?_
    sequential := ?_
    skipped_iff := fun _ _ _ => not_mem_chosen_iff
    counted := applied_add_skipped_eq_countP
    settled := diagnostics_eq }⟩
  · intro c mem
    obtain ⟨i, index, d, found, edit, -⟩ :=
      Candidate.exists_of_mem_collect (mem_collect_of_mem_chosen mem)
    exact ⟨d, by simpa [index] using found, edit⟩
  · rw [output, ← edits, ← text]
    simpa using Patch.weave?_edits [] [] ps
  · rw [output, ← edits, ← text]
    exact Patch.foldrM_applyTo?_edits [] ps

end Splice

end ScriptLint
