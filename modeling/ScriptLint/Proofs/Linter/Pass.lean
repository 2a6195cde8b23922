import ScriptLint.Linter
import ScriptLint.Proofs.Dispatch

/-!
# Passes as steps

`Linter.pass` is one pass, and `Linter.run` repeats passes until one of them stops or no pass is
left. A run has the outcome of `Linter.passes` and says in addition why it ended (`passes_eq_run`).

`Does` tells what a pass can do. What every pass keeps, a run keeps (`run_invariant`).
-/

namespace ScriptLint

/-- Why a run of passes ends. -/
inductive Stop where
  /-- No pass is left, and every one that ran made an edit. -/
  | exhausted
  /-- The text does not parse. -/
  | unparsed
  /-- A rule has failed. -/
  | crashed
  /-- A pass accepted no edit. -/
  | settled
  deriving DecidableEq, Repr

/-- What a pass comes to: the end of the run, or the outcome that the next pass goes on from. -/
inductive Pass where
  | stop (why : Stop) (o : Outcome)
  | next (o : Outcome)

def Pass.outcome : Pass → Outcome
  | .stop _ o => o
  | .next o => o

namespace Linter

variable (l : Linter) (rules : List ConfiguredRule)

/-- What the rules find in the text of an outcome. -/
def found (o : Outcome) : Dispatch := l.dispatch rules o.output (l.parse o.output).tree

/-- What a pass makes of the diagnostics that the rules find. -/
def spliced (o : Outcome) : Splice := Splice.run o.output (l.found rules o).diagnostics

/-- An outcome with a run of the rules added and its edits settled. -/
def recordSettled (o : Outcome) : Outcome :=
  { record o (l.found rules o) with diagnostics := (l.spliced rules o).diagnostics }

/-- An outcome with a pass added that made edits. -/
def recordSpliced (o : Outcome) : Outcome :=
  { l.recordSettled rules o with
    applied := o.applied + (l.spliced rules o).applied
    output := (l.spliced rules o).output }

/-- One pass over the text of an outcome. -/
def pass (o : Outcome) : Pass :=
  match (l.parse o.output).errors with
  | e :: _ => .stop .unparsed (stopAt o e)
  | [] =>
    match (l.found rules o).error with
    | some _ => .stop .crashed (record o (l.found rules o))
    | none =>
      if (l.spliced rules o).applied = 0 then .stop .settled (l.recordSettled rules o)
      else .next (l.recordSpliced rules o)

/-- Passes from an outcome on, as many as are left. -/
def run : (left : Nat) → Outcome → Stop × Outcome
  | 0, o => (.exhausted, o)
  | left + 1, o =>
    match l.pass rules o with
    | .stop why o => (why, o)
    | .next o => run left o

/-- Why fixing a text ends. -/
def ending (input : Text) : Stop := (l.run rules l.options.maxPasses (.start input)).1

variable {l rules} {o : Outcome}

theorem found_eq_runSlots : l.found rules o =
    Dispatch.runSlots rules l.options.settings ⟨o.output, (l.parse o.output).tree⟩ :=
  Dispatch.run_eq_runSlots ..

theorem passes_eq_run (left : Nat) : l.passes rules left o = (l.run rules left o).2 := by
  induction left generalizing o with
  | zero => rfl
  | succ left ih =>
    simp only [passes, run, pass, recordSpliced, recordSettled, spliced, found, record]
    cases errors : (l.parse o.output).errors with
    | cons e es => rfl
    | nil =>
      dsimp only
      cases error : (l.dispatch rules o.output (l.parse o.output).tree).error with
      | some e => rfl
      | none =>
        by_cases nothing : (Splice.run o.output
            (l.dispatch rules o.output (l.parse o.output).tree).diagnostics).applied = 0
        · simp only [nothing, ↓reduceIte]
        · simp only [nothing, ↓reduceIte]
          exact ih

theorem verifyAndFix_eq_run (input : Text) :
    l.verifyAndFix rules input = (l.run rules l.options.maxPasses (.start input)).2 :=
  passes_eq_run _

/-- What a pass can do. -/
inductive Does (l : Linter) (rules : List ConfiguredRule) (o : Outcome) : Pass → Prop where
  | unparsed {e es} (errors : (l.parse o.output).errors = e :: es) :
      Does l rules o (.stop .unparsed (stopAt o e))
  | crashed {e} (parses : (l.parse o.output).errors = [])
      (fails : (l.found rules o).error = some e) :
      Does l rules o (.stop .crashed (record o (l.found rules o)))
  | settled (parses : (l.parse o.output).errors = []) (works : (l.found rules o).error = none)
      (nothing : (l.spliced rules o).applied = 0) :
      Does l rules o (.stop .settled (l.recordSettled rules o))
  | edited (parses : (l.parse o.output).errors = []) (works : (l.found rules o).error = none)
      (some : (l.spliced rules o).applied ≠ 0) :
      Does l rules o (.next (l.recordSpliced rules o))

theorem pass_does : Does l rules o (l.pass rules o) := by
  unfold pass
  cases errors : (l.parse o.output).errors with
  | cons e es => exact .unparsed errors
  | nil =>
    dsimp only
    cases error : (l.found rules o).error with
    | some e => exact .crashed errors error
    | none =>
      dsimp only
      split
      · exact .settled errors error ‹_›
      · exact .edited errors error ‹_›

theorem Does.eq {p : Pass} (does : Does l rules o p) : l.pass rules o = p := by
  cases does with
  | unparsed errors => simp only [pass, errors]
  | crashed parses fails => simp only [pass, parses, fails]
  | settled parses works nothing => simp only [pass, parses, works, nothing, ↓reduceIte]
  | edited parses works some => simp only [pass, parses, works, some, ↓reduceIte]

theorem run_of_stop {left : Nat} {why : Stop} {last : Outcome}
    (does : Does l rules o (.stop why last)) : l.run rules (left + 1) o = (why, last) := by
  simp only [run, does.eq]

theorem run_of_next {left : Nat} {after : Outcome} (does : Does l rules o (.next after)) :
    l.run rules (left + 1) o = l.run rules left after := by
  simp only [run, does.eq]

theorem Does.stops {why : Stop} {last : Outcome} (does : Does l rules o (.stop why last)) :
    why ≠ .exhausted := by
  cases does <;> decide

/-- A run of at least one pass stops with the first one or goes on behind it. -/
theorem run_succ_cases {left : Nat} {why : Stop} {last : Outcome}
    (ends : l.run rules (left + 1) o = (why, last)) :
    Does l rules o (.stop why last) ∨
      ∃ after, Does l rules o (.next after) ∧ l.run rules left after = (why, last) := by
  have does : Does l rules o (l.pass rules o) := pass_does
  cases result : l.pass rules o with
  | stop why' last' =>
    rw [result] at does
    rw [run_of_stop does] at ends
    obtain ⟨rfl, rfl⟩ := Prod.mk.inj ends
    exact .inl does
  | next after =>
    rw [result] at does
    rw [run_of_next does] at ends
    exact .inr ⟨after, does, ends⟩

/-- What every pass keeps holds of the outcome of a run. -/
theorem run_invariant {P : Outcome → Prop}
    (keeps : ∀ {o p}, Does l rules o p → P o → P p.outcome) (left : Nat) (start : P o) :
    P (l.run rules left o).2 := by
  induction left generalizing o with
  | zero => exact start
  | succ left ih =>
    have behind := keeps pass_does start
    unfold run
    cases result : l.pass rules o with
    | stop why last =>
      rw [result] at behind
      exact behind
    | next o' =>
      rw [result] at behind
      exact ih behind

/-- A run that ends before its last pass ends with a pass that stops. -/
theorem stop_of_run {left : Nat} {why : Stop} {last : Outcome}
    (ends : l.run rules left o = (why, last)) (early : why ≠ .exhausted) :
    ∃ o', Does l rules o' (.stop why last) := by
  induction left generalizing o with
  | zero =>
    obtain ⟨rfl, -⟩ := Prod.mk.inj ends
    exact absurd rfl early
  | succ left ih =>
    rcases run_succ_cases ends with stop | ⟨after, -, behind⟩
    · exact ⟨o, stop⟩
    · exact ih behind

end Linter

end ScriptLint
