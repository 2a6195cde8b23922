import Mathlib.Data.List.TakeWhile

/-!
# Runs at the start of a list

The run of what a predicate holds for at the start of a list is told by the parts of the list
(`takeWhile_of_parts`). It is all that the predicate holds for exactly if none of that comes behind
anything else (`takeWhile_eq_filter_iff`).
-/

namespace ScriptLint

variable {α : Type} {p q : α → Bool} {l inside rest : List α}

theorem takeWhile_of_parts (all : ∀ c ∈ inside, p c = true) (ends : ∀ c ∈ rest.head?, p c = false) :
    (inside ++ rest).takeWhile p = inside := by
  rw [List.takeWhile_append_of_pos all]
  cases rest with
  | nil => exact List.append_nil _
  | cons c rest =>
    rw [List.takeWhile_cons_of_neg (by simp [ends c rfl]), List.append_nil]

theorem dropWhile_of_parts (all : ∀ c ∈ inside, p c = true) (ends : ∀ c ∈ rest.head?, p c = false) :
    (inside ++ rest).dropWhile p = rest := by
  rw [List.dropWhile_append_of_pos all]
  cases rest with
  | nil => rfl
  | cons c rest => exact List.dropWhile_cons_of_neg (by simp [ends c rfl])

theorem head?_dropWhile (p : α → Bool) (l : List α) : ∀ c ∈ (l.dropWhile p).head?, p c = false := by
  intro c first
  have ends := List.head?_dropWhile_not p l
  rw [Option.mem_def.1 first] at ends
  exact ends

/-- What a predicate picks out of a list comes first exactly if none of it comes behind anything
else. -/
theorem takeWhile_eq_filter_iff : l.takeWhile p = l.filter p ↔
    ∀ earlier f later, l = earlier ++ f :: later → p f = false → ∀ t ∈ later, p t = false := by
  induction l with
  | nil => simp
  | cons x l ih =>
    cases first : p x with
    | true =>
      rw [List.takeWhile_cons_of_pos first, List.filter_cons_of_pos first, List.cons_inj_right, ih]
      constructor
      · intro behind earlier f later parts other
        cases earlier with
        | nil =>
          rw [← (List.cons.inj parts).1, first] at other
          cases other
        | cons y earlier => exact behind earlier f later (List.cons.inj parts).2 other
      · intro behind earlier f later parts
        exact behind (x :: earlier) f later (congrArg (x :: ·) parts)
    | false =>
      rw [List.takeWhile_cons_of_neg (by simp [first]), List.filter_cons_of_neg (by simp [first]),
        eq_comm, List.filter_eq_nil_iff]
      simp only [Bool.not_eq_true]
      constructor
      · intro none earlier f later parts _ t mem
        cases earlier with
        | nil => exact none t ((List.cons.inj parts).2 ▸ mem)
        | cons y earlier =>
          exact none t ((List.cons.inj parts).2 ▸ List.mem_append_right _ (List.mem_cons_of_mem _ mem))
      · exact fun behind => behind [] x l rfl first

/-- Something that is only found behind the start of a list is hidden by the first element that does not
belong to the start. -/
theorem hidden_iff (sort : ∀ t, q t = true → p t = true) :
    ((∃ t ∈ l, q t = true) ∧ ∀ t ∈ l.takeWhile p, q t = false) ↔
      ∃ earlier f later, l = earlier ++ f :: later ∧ p f = false ∧
        (∀ t ∈ earlier, q t = false) ∧ ∃ t ∈ later, q t = true := by
  constructor
  · rintro ⟨⟨t, mem, holds⟩, none⟩
    have parts := List.takeWhile_append_dropWhile (p := p) (l := l)
    rw [← parts] at mem
    have behind : t ∈ l.dropWhile p := (List.mem_append.1 mem).resolve_left fun start =>
      Bool.false_ne_true ((none t start).symm.trans holds)
    cases rest : l.dropWhile p with
    | nil => rw [rest] at behind; cases behind
    | cons f later =>
      have other : p f = false := head?_dropWhile p l f (by rw [rest]; rfl)
      refine ⟨_, f, later, by rw [← rest, parts], other, none, t, ?_, holds⟩
      rw [rest] at behind
      exact (List.mem_cons.1 behind).resolve_left fun same =>
        Bool.false_ne_true (other.symm.trans (same ▸ sort t holds))
  · rintro ⟨earlier, f, later, rfl, other, none, t, mem, holds⟩
    have start : (earlier ++ f :: later).takeWhile p <+: earlier := by
      rw [List.takeWhile_append]
      split
      · exact ⟨[], by rw [List.takeWhile_cons_of_neg (by simp [other]), List.append_nil,
          List.append_nil]⟩
      · exact List.takeWhile_prefix p
    exact ⟨⟨t, by simp [mem], holds⟩, fun u among => none u (start.subset among)⟩

end ScriptLint
