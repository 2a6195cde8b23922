import ScriptLint.Edit

/-!
# Edits that fit a text

Edits that fit a text are merged into one that fits it (`isValid_merge`): its span runs from a
boundary to a boundary, and these are in order because the merged edits are.

`weave` takes nothing where it cannot cut. `weave?` is the same walk that fails there, so edits that
it puts in were put in without a cut inside a character or past the end (`applyAll_of_weave?`), and
`applyTo?` puts in one edit on its own.
-/

namespace ScriptLint.Edit

variable {source : Text} {e merged : Edit} {edits : List Edit}

theorem isValid_iff :
    e.isValid source = true ↔ e.span.start ≤ e.span.stop ∧ e.span.stop ≤ Text.size source ∧
      source.isBoundary e.span.start ∧ source.isBoundary e.span.stop := by
  unfold isValid problem?
  split
  · simp
    omega
  split
  · simp
    omega
  split
  · simp_all
  · simp_all

/-- What is wrong with an edit that does not fit a text. -/
inductive Misfits (source : Text) (e : Edit) : EditProblem → Prop
  | inverted (backwards : e.span.stop < e.span.start) : Misfits source e (.inverted e.span)
  | outOfBounds (ordered : e.span.start ≤ e.span.stop) (beyond : Text.size source < e.span.stop) :
      Misfits source e (.outOfBounds e.span (Text.size source))
  | splitsCharacter (ordered : e.span.start ≤ e.span.stop) (within : e.span.stop ≤ Text.size source)
      (inside : source.isBoundary e.span.start = false ∨ source.isBoundary e.span.stop = false) :
      Misfits source e (.splitsCharacter e.span)

theorem problem?_eq_some_iff {problem : EditProblem} :
    e.problem? source = some problem ↔ e.Misfits source problem := by
  unfold problem?
  constructor
  · intro found
    split at found
    · rename_i backwards
      cases found
      exact .inverted backwards
    split at found
    · rename_i ordered beyond
      cases found
      exact .outOfBounds (Nat.le_of_not_lt ordered) beyond
    split at found
    · cases found
    · rename_i ordered within inside
      cases found
      refine .splitsCharacter (Nat.le_of_not_lt ordered) (Nat.le_of_not_lt within) ?_
      rw [Decidable.not_and_iff_not_or_not] at inside
      simpa using inside
  · intro misfits
    cases misfits with
    | inverted backwards => rw [if_pos backwards]
    | outOfBounds ordered beyond => rw [if_neg (Nat.not_lt.2 ordered), if_pos beyond]
    | splitsCharacter ordered within inside =>
      rw [if_neg (Nat.not_lt.2 ordered), if_neg (Nat.not_lt.2 within), if_neg]
      rcases inside with inside | inside <;> simp [inside]

/-- What a list of edits is searched for is not found if all of them fit. -/
theorem findSome?_problem? :
    edits.findSome? (problem? source) = none ↔ ∀ e ∈ edits, e.isValid source = true := by
  simp [isValid]

theorem lastStop_eq (start : Nat) (first : Edit) (rest : List Edit) :
    ∃ last ∈ first :: rest, lastStop start (first :: rest) = last.span.stop := by
  refine ⟨(first :: rest).getLast (by simp), List.getLast_mem _, ?_⟩
  simp [lastStop, List.getLast?_eq_some_getLast]

theorem start_le_lastStop {first : Edit} {rest : List Edit} (start : Nat)
    (ordered : ∀ e ∈ first :: rest, e.span.start ≤ e.span.stop)
    (sorted : ascending (first :: rest) = true) :
    first.span.start ≤ lastStop start (first :: rest) := by
  induction rest generalizing first with
  | nil => simpa [lastStop] using ordered first List.mem_cons_self
  | cons second rest ih =>
    simp only [ascending, Bool.and_eq_true, decide_eq_true_eq] at sorted
    have here := ordered first List.mem_cons_self
    have behind := ih (fun e mem => ordered e (List.mem_cons_of_mem first mem)) sorted.2
    have same : lastStop start (first :: second :: rest) = lastStop start (second :: rest) := by
      simp [lastStop, List.getLast?_cons_cons]
    omega

theorem isValid_merge (fits : ∀ e ∈ edits, e.isValid source = true)
    (ok : merge source edits = .ok (some merged)) : merged.isValid source = true := by
  unfold merge at ok
  split at ok
  · cases ok
  · cases ok
    exact fits _ List.mem_cons_self
  rw [findSome?_problem?.2 fits] at ok
  have among : ∀ e ∈ sorted edits, e.isValid source = true :=
    fun e mem => fits e (List.mem_mergeSort.1 mem)
  dsimp only at ok
  cases list : sorted edits with
  | nil => simp [list] at ok
  | cons first rest =>
    rw [list] at ok among
    dsimp only at ok
    split at ok
    · rename_i ascends
      cases ok
      obtain ⟨last, mem, stop⟩ := lastStop_eq first.span.start first rest
      have begin_ := isValid_iff.1 (among first List.mem_cons_self)
      have end_ := isValid_iff.1 (among last mem)
      have ordered := start_le_lastStop first.span.start
        (fun e mem => (isValid_iff.1 (among e mem)).1) ascends
      refine isValid_iff.2 ⟨ordered, ?_, begin_.2.2.1, ?_⟩
      · simpa only [stop] using end_.2.1
      · simpa only [stop] using end_.2.2.2
    · cases ok

/-- A text with one edit made, if the edit cuts a stretch out of it. -/
def applyTo? (e : Edit) (t : Text) : Option Text := do
  let before ← Text.slice? t 0 e.span.start
  let _ ← Text.slice? t e.span.start e.span.stop
  let after ← Text.slice? t e.span.stop (Text.size t)
  return before ++ e.text ++ after

/-- The source from an offset on with ascending edits put in, if what lies in front of each of them
and behind the last one can be cut out. -/
def weave? (source : Text) (start : Nat) : List Edit → Option Text
  | [] => Text.slice? source start (Text.size source)
  | e :: edits => do
    let copied ← Text.slice? source start e.span.start
    let rest ← weave? source e.span.stop edits
    return copied ++ e.text ++ rest

theorem lastStop_cons (start : Nat) (e : Edit) (edits : List Edit) :
    lastStop start (e :: edits) = lastStop e.span.stop edits := by
  cases last : edits.getLast? <;> simp [lastStop, List.getLast?_cons, last]

theorem weave_of_weave? {start : Nat} {t : Text} (woven : weave? source start edits = some t) :
    weave source start edits ++ Text.between source (lastStop start edits) (Text.size source) = t := by
  induction edits generalizing start t with
  | nil => simp [weave, lastStop, Text.between, show Text.slice? source start _ = some t from woven]
  | cons e edits ih =>
    simp only [weave?, Option.bind_eq_bind, Option.bind_eq_some_iff] at woven
    obtain ⟨copied, cut, rest, behind, joined⟩ := woven
    cases joined
    simp only [weave, lastStop_cons, Text.between, cut, Option.getD_some, List.append_assoc]
    rw [← ih behind, Text.between]

theorem applyAll_of_weave? {t : Text} (woven : weave? source 0 edits = some t) :
    applyAll source edits = t :=
  weave_of_weave? woven

end ScriptLint.Edit
