import ScriptLint.Proofs.Splice.Merging

/-!
# Edits made at once

`Edit.atOnce` makes edits in one walk over the characters of a text, and asks at each of them what all
edits have to say: what is put in there, and whether the character is replaced. It knows neither an
order of the edits nor offsets that have moved. A merged edit makes the same text (`applyTo?_merge`).

Of edits in order the walk is followed patch by patch (`Patch.atOnce_edits`): what an earlier patch has
put in lies behind, insertions at the place itself wait, and all others are yet to come. Sorting the
edits changes nothing that the walk asks for (`atOnce_sorted`).
-/

namespace ScriptLint

namespace Edit

/-- The edits that start at an offset. -/
def startingAt (offset : Nat) (edits : List Edit) : List Edit :=
  edits.filter fun e => e.span.start == offset

/-- What edits put in at an offset: what is inserted there, in the order in which the edits are given,
and then what replaces the text that starts there. -/
def putIn (edits : List Edit) (offset : Nat) : Text :=
  let here := startingAt offset edits
  (here.filter isInsertion ++ here.filter (! ·.isInsertion)).flatMap Edit.text

/-- Whether one of the edits replaces the byte at an offset. -/
def replaces (edits : List Edit) (offset : Nat) : Bool :=
  edits.any fun e => e.span.start ≤ offset && offset < e.span.stop

/-- A text that starts at an offset, with edits made at once. -/
def atOnce (edits : List Edit) (offset : Nat) : Text → Text
  | [] => putIn edits offset
  | c :: cs =>
    putIn edits offset ++ (if replaces edits offset then [] else [c]) ++
      atOnce edits (offset + c.utf8Size) cs

variable {source : Text} {edits : List Edit} {merged : Edit} {offset : Nat}

theorem startingAt_eq {gone here later : List Edit} (gone_ : ∀ e ∈ gone, e.span.start ≠ offset)
    (here_ : ∀ e ∈ here, e.span.start = offset) (later_ : ∀ e ∈ later, e.span.start ≠ offset) :
    startingAt offset (gone ++ here ++ later) = here := by
  rw [startingAt, List.filter_append, List.filter_append, List.filter_eq_nil_iff.2,
    List.filter_eq_self.2, List.filter_eq_nil_iff.2, List.nil_append, List.append_nil]
  · simpa using later_
  · simpa using here_
  · simpa using gone_

theorem putIn_eq_nil (elsewhere : ∀ e ∈ edits, e.span.start ≠ offset) : putIn edits offset = [] := by
  have none : startingAt offset edits = [] := by
    rw [startingAt, List.filter_eq_nil_iff]
    simpa using elsewhere
  rw [putIn, none]
  rfl

/-- Where insertions come before the others, all are put in as they are given. -/
theorem putIn_eq {inserted replaced : List Edit}
    (here : startingAt offset edits = inserted ++ replaced)
    (before : ∀ e ∈ inserted, e.isInsertion = true)
    (behind : ∀ e ∈ replaced, e.isInsertion = false) :
    putIn edits offset = (inserted ++ replaced).flatMap Edit.text := by
  rw [putIn, here, List.filter_append, List.filter_append, List.filter_eq_self.2 before,
    List.filter_eq_nil_iff.2 fun e mem => by simp [behind e mem],
    List.filter_eq_nil_iff.2 fun e mem => by simp [before e mem],
    List.filter_eq_self.2 fun e mem => by simp [behind e mem]]
  simp

theorem replaces_append (es fs : List Edit) (offset : Nat) :
    replaces (es ++ fs) offset = (replaces es offset || replaces fs offset) :=
  List.any_append

theorem replaces_eq_false
    (elsewhere : ∀ e ∈ edits, offset < e.span.start ∨ e.span.stop ≤ offset) :
    replaces edits offset = false := by
  rw [replaces, List.any_eq_false]
  intro e mem
  have := elsewhere e mem
  simp only [Bool.and_eq_true, decide_eq_true_eq]
  omega

/-- A stretch of a text inside which no edit starts, and which is replaced as a whole or not at all. -/
theorem atOnce_append {t : Text} (rest : Text) (some : t ≠ [])
    (between : ∀ e ∈ edits, e.span.start ≤ offset ∨ offset + Text.size t ≤ e.span.start)
    {whole : Bool}
    (same : ∀ o, offset ≤ o → o < offset + Text.size t → replaces edits o = whole) :
    atOnce edits offset (t ++ rest) =
      putIn edits offset ++ (if whole then [] else t) ++
        atOnce edits (offset + Text.size t) rest := by
  induction t generalizing offset with
  | nil => exact absurd rfl some
  | cons c t ih =>
    have size := Text.size_cons c t
    have width := c.utf8Size_pos
    rw [List.cons_append, atOnce, same offset (Nat.le_refl _) (by omega)]
    rcases t with _ | ⟨d, t⟩
    · simp
    · have quiet : putIn edits (offset + c.utf8Size) = [] := by
        apply putIn_eq_nil
        intro e mem
        have := between e mem
        have := Text.size_pos (List.cons_ne_nil d t)
        omega
      rw [ih (List.cons_ne_nil d t) _ _, quiet, size, ← Nat.add_assoc]
      · cases whole <;> simp
      · intro e mem
        have := between e mem
        omega
      · intro o le lt
        exact same o (by omega) (by omega)

section
variable {gone waiting here later : List Edit} {t : Text} (some : t ≠ [])
  (gone_ : ∀ e ∈ gone, e.span.start < offset ∧ e.span.stop ≤ offset)
  (waiting_ : ∀ e ∈ waiting, e.span = ⟨offset, offset⟩)
  (here_ : ∀ e ∈ here, e.span = ⟨offset, offset + Text.size t⟩)
include some gone_ waiting_ here_

/-- Behind a stretch of a text, the edits at its start and those that replace it are gone. -/
theorem gone_behind : ∀ e ∈ gone ++ waiting ++ here,
    e.span.start < offset + Text.size t ∧ e.span.stop ≤ offset + Text.size t := by
  intro e mem
  have width := Text.size_pos some
  simp only [List.mem_append] at mem
  obtain (mem | mem) | mem := mem
  · have := gone_ e mem
    omega
  · have span := waiting_ e mem
    simp only [span]
    omega
  · have span := here_ e mem
    simp only [span]
    omega

/-- A stretch of a text that some edits replace, or none: insertions that wait at its start are put in
first, and of the other edits all are gone or still to come. -/
theorem atOnce_stretch (rest : Text) (later_ : ∀ e ∈ later, offset + Text.size t ≤ e.span.start) :
    atOnce (gone ++ waiting ++ here ++ later) offset (t ++ rest) =
      (waiting ++ here).flatMap Edit.text ++ (if here.isEmpty then t else []) ++
        atOnce (gone ++ waiting ++ here ++ later) (offset + Text.size t) rest := by
  have width := Text.size_pos some
  have putIn : putIn (gone ++ waiting ++ here ++ later) offset = (waiting ++ here).flatMap text := by
    refine putIn_eq ?_ (fun e mem => ?_) (fun e mem => ?_)
    · rw [List.append_assoc gone]
      refine startingAt_eq (fun e mem => ?_) (fun e mem => ?_) (fun e mem => ?_)
      · have := gone_ e mem
        omega
      · rcases List.mem_append.1 mem with mem | mem
        · rw [waiting_ e mem]
        · rw [here_ e mem]
      · have := later_ e mem
        omega
    · simp [isInsertion, waiting_ e mem]
    · simp only [isInsertion, here_ e mem, decide_eq_false_iff_not]
      omega
  have replaces (o : Nat) (le : offset ≤ o) (lt : o < offset + Text.size t) :
      replaces (gone ++ waiting ++ here ++ later) o = ! here.isEmpty := by
    have none : replaces gone o = false ∧ replaces waiting o = false ∧ replaces later o = false := by
      refine ⟨replaces_eq_false fun e mem => ?_, replaces_eq_false fun e mem => ?_,
        replaces_eq_false fun e mem => ?_⟩
      · have := gone_ e mem
        omega
      · rw [waiting_ e mem]
        exact .inr le
      · have := later_ e mem
        omega
    rw [replaces_append, replaces_append, replaces_append, none.1, none.2.1, none.2.2]
    cases here with
    | nil => rfl
    | cons e here =>
      have span := here_ e List.mem_cons_self
      simp [Edit.replaces, span, le, lt]
  rw [atOnce_append rest some _ replaces, putIn]
  · cases here <;> simp
  · intro e mem
    simp only [List.mem_append] at mem
    obtain ((mem | mem) | mem) | mem := mem
    · have := gone_ e mem
      omega
    · rw [waiting_ e mem]
      exact .inl (Nat.le_refl offset)
    · rw [here_ e mem]
      exact .inl (Nat.le_refl offset)
    · exact .inr (later_ e mem)

end

end Edit

namespace Patch

/-- The edits of patches made at once, behind edits that are made already and insertions that wait. -/
theorem atOnce_edits_behind {gone waiting : List Edit} {offset : Nat} (ps : List Patch)
    (gone_ : ∀ e ∈ gone, e.span.start < offset ∧ e.span.stop ≤ offset)
    (waiting_ : ∀ e ∈ waiting, e.span = ⟨offset, offset⟩) :
    Edit.atOnce (gone ++ waiting ++ edits offset ps) offset (source ps) =
      waiting.flatMap Edit.text ++ output ps := by
  induction ps generalizing gone waiting offset with
  | nil =>
    have here : Edit.startingAt offset (gone ++ waiting ++ edits offset []) = waiting ++ [] := by
      rw [List.append_nil waiting]
      refine Edit.startingAt_eq (fun e mem => ?_) (fun e mem => ?_) (fun e mem => ?_)
      · have := gone_ e mem
        omega
      · rw [waiting_ e mem]
      · cases mem
    rw [source, List.flatMap_nil, Edit.atOnce, Edit.putIn_eq here, output, List.flatMap_nil]
    · simp
    · intro e mem
      simp [Edit.isInsertion, waiting_ e mem]
    · intro e mem
      cases mem
  | cons p ps ih =>
    obtain ⟨old, new⟩ := p
    by_cases empty : old = []
    · subst empty
      cases new with
      | none => simpa [edits, source, output, result] using ih gone_ waiting_
      | some text =>
        -- an insertion waits with the others
        have longer : ∀ e ∈ waiting ++ [⟨⟨offset, offset⟩, text⟩], e.span = ⟨offset, offset⟩ := by
          intro e mem
          rcases List.mem_append.1 mem with mem | mem
          · exact waiting_ e mem
          · rw [List.mem_singleton.1 mem]
        simpa [edits, source, output, result] using ih gone_ longer
    · obtain ⟨here, eq⟩ : ∃ here : List Edit,
          (new.map fun text => ⟨⟨offset, offset + Text.size old⟩, text⟩).toList = here := ⟨_, rfl⟩
      have here_ : ∀ e ∈ here, e.span = ⟨offset, offset + Text.size old⟩ := by
        rintro e mem
        rw [← eq, Option.mem_toList, Option.map_eq_some_iff] at mem
        obtain ⟨text, -, rfl⟩ := mem
        rfl
      have made : here.flatMap Edit.text ++ (if here.isEmpty then old else []) = new.getD old := by
        cases new <;> simp [← eq]
      have behind := @ih (gone ++ waiting ++ here) [] (offset + Text.size old)
        (Edit.gone_behind empty gone_ waiting_ here_) (by simp)
      rw [List.append_nil, List.flatMap_nil, List.nil_append] at behind
      simp only [edits, source, List.flatMap_cons, eq] at behind ⊢
      rw [← List.append_assoc (gone ++ waiting), Edit.atOnce_stretch empty gone_ waiting_ here_ _
        fun e mem => start_le_of_mem_edits mem, behind, List.flatMap_append, List.append_assoc,
        List.append_assoc, ← List.append_assoc (here.flatMap _), made]
      rfl

/-- Patches put their new stretches in place of the old ones, when their edits are made at once. -/
theorem atOnce_edits (ps : List Patch) : Edit.atOnce (edits 0 ps) 0 (source ps) = output ps :=
  @atOnce_edits_behind [] [] 0 ps (by simp) (by simp)

end Patch

namespace Edit

variable {source : Text} {edits : List Edit} {merged : Edit}

/-- Sorting keeps the order of those edits that are in order anyway. -/
theorem filter_sorted (p : Edit → Bool)
    (ordered : (edits.filter p).Pairwise fun a b => a.span.le b.span = true) :
    (sorted edits).filter p = edits.filter p := by
  have kept : (edits.filter p).Sublist (sorted edits) := by
    refine List.sublist_mergeSort ?_ ?_ ordered List.filter_sublist
    · exact fun _ _ _ => Span.le_trans
    · exact fun a b => Span.le_total a.span b.span
  have sublist := kept.filter p
  rw [List.filter_filter, List.filter_congr fun e _ => Bool.and_self (p e)] at sublist
  exact (sublist.eq_of_length ((sorted_perm edits).filter p).length_eq.symm).symm

section
variable (ordered : ∀ e ∈ edits, e.span.start ≤ e.span.stop)
  (apart : edits.Pairwise fun a b => a.overlaps b = false)
include ordered apart

/-- Sorting changes nothing of what is put in: of edits that share no byte, at most one replaces what
starts at an offset. -/
theorem putIn_sorted (offset : Nat) : putIn (sorted edits) offset = putIn edits offset := by
  simp only [putIn, startingAt, List.filter_filter]
  rw [filter_sorted, filter_sorted]
  · refine (apart.filter _).imp_of_mem fun {a b} memA memB apart => ?_
    simp only [List.mem_filter, isInsertion, Bool.and_eq_true, beq_iff_eq, Bool.not_eq_true',
      decide_eq_false_iff_not] at memA memB
    simp only [overlaps, Bool.and_eq_false_iff, decide_eq_false_iff_not] at apart
    omega
  · refine (apart.filter _).imp_of_mem fun {a b} memA memB _ => ?_
    simp only [List.mem_filter, isInsertion, Bool.and_eq_true, beq_iff_eq, decide_eq_true_eq]
      at memA memB
    have := ordered b memB.1
    simp only [Span.le, Bool.or_eq_true, Bool.and_eq_true, beq_iff_eq, decide_eq_true_eq]
    omega

theorem atOnce_sorted (offset : Nat) (t : Text) :
    atOnce (sorted edits) offset t = atOnce edits offset t := by
  have same (o : Nat) : replaces (sorted edits) o = replaces edits o := (sorted_perm edits).any_eq
  induction t generalizing offset with
  | nil => exact putIn_sorted ordered apart offset
  | cons c t ih => rw [atOnce, atOnce, putIn_sorted ordered apart, same, ih]

end

/-- An edit that fits can be made on its own. -/
theorem applyTo?_eq {e : Edit} (fits : e.isValid source = true) :
    e.applyTo? source = some (applyAll source [e]) := by
  obtain ⟨ps, rfl, made⟩ := Patch.exists_edits_zero_eq (by simpa using fits)
    (List.pairwise_singleton _ e)
  calc e.applyTo? (Patch.source ps)
      = (Patch.edits 0 ps).foldrM applyTo? (Patch.source ps) := by simp [made]
    _ = some (Patch.output ps) := Patch.foldrM_applyTo?_edits [] ps
    _ = some (applyAll (Patch.source ps) [e]) := by rw [← Patch.applyAll_edits, made]

/-- Edits that fit merge unless two of them share a byte, into an edit if there are any. -/
theorem merge_eq (fits : ∀ e ∈ edits, e.isValid source = true) :
    (¬ edits.Pairwise (fun a b => a.overlaps b = false) → merge source edits = .error .overlap) ∧
      (edits.Pairwise (fun a b => a.overlaps b = false) →
        ∃ result, merge source edits = .ok result ∧ (result.isSome ↔ edits ≠ [])) := by
  rcases edits with _ | ⟨e, _ | ⟨f, more⟩⟩
  · exact ⟨fun shared => absurd .nil shared, fun _ => ⟨none, rfl, by simp⟩⟩
  · exact ⟨fun shared => absurd (List.pairwise_singleton _ e) shared, fun _ => ⟨some e, rfl, by simp⟩⟩
  · have ordered : ∀ e' ∈ e :: f :: more, e'.span.start ≤ e'.span.stop :=
      fun e' mem => (isValid_iff.1 (fits e' mem)).1
    obtain ⟨first, rest, -, merged⟩ := exists_merge_eq (by simp) fits
    rw [← ascending_sorted_iff ordered]
    constructor
    · intro shared
      rw [merged, if_neg shared]
    · intro apart
      exact ⟨_, by rw [merged, if_pos apart], by simp⟩

theorem applyAll_merge (fits : ∀ e ∈ edits, e.isValid source = true)
    (ok : merge source edits = .ok (some merged)) :
    applyAll source [merged] = applyAll source (sorted edits) := by
  rcases edits with _ | ⟨e, _ | ⟨f, more⟩⟩
  · cases ok
  · cases ok
    simp [sorted]
  · obtain ⟨first, rest, eq, result⟩ := exists_merge_eq (by simp) fits
    rw [result] at ok
    split at ok
    · cases ok
      rw [applyAll_woven, eq]
    · cases ok

/-- A merged edit makes at once what it was merged from. -/
theorem applyTo?_merge (fits : ∀ e ∈ edits, e.isValid source = true)
    (apart : edits.Pairwise fun a b => a.overlaps b = false)
    (ok : merge source edits = .ok (some merged)) :
    merged.applyTo? source = some (atOnce edits 0 source) := by
  have ordered : ∀ e ∈ edits, e.span.start ≤ e.span.stop :=
    fun e mem => (isValid_iff.1 (fits e mem)).1
  have ascend := (ascending_sorted_iff ordered).2 apart
  rw [ascending_iff fun e mem => ordered e ((sorted_perm edits).subset mem)] at ascend
  obtain ⟨ps, rfl, made⟩ := Patch.exists_edits_zero_eq
    (fun e mem => fits e ((sorted_perm edits).subset mem)) ascend
  calc merged.applyTo? (Patch.source ps)
      = some (applyAll (Patch.source ps) (sorted edits)) := by
        rw [applyTo?_eq (isValid_merge fits ok), applyAll_merge fits ok]
    _ = some (Patch.output ps) := by rw [← made, Patch.applyAll_edits]
    _ = some (atOnce (sorted edits) 0 (Patch.source ps)) := by rw [← Patch.atOnce_edits, made]
    _ = some (atOnce edits 0 (Patch.source ps)) := by rw [atOnce_sorted ordered apart]

/-- Insertions keep the order in which they are given, and what is inserted where another edit
replaces something comes first. -/
example : atOnce [replace ⟨2, 4⟩ ['C'], insert 2 ['x'], insert 2 ['y'], remove ⟨0, 2⟩] 0
    ['a', 'b', 'c', 'd'] = ['x', 'y', 'C'] := by decide

end Edit

end ScriptLint
