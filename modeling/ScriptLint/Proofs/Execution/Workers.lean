import ScriptLint.Execution

/-!
# Workers that share files

Many files are linted by workers that take turns in any order. A worker lints a file, adds one to the
counter that all workers share, reports the number it has got, and hands in the result with the place
of the file. When all results are handed in, they are put in the order of the files, a last report
follows, and the run is over.

* `Move` is what a worker can do next with a file, and `Step` one turn of some worker, or the end.
  Workers are not counted: a pool with few of them takes some of these turns only.
* `Sound` says what every turn of a worker keeps: each file has one job, and the reports, together with
  those still to be made, are numbered in the order in which the files were counted.
* `Reaches.turns`: each turn is one of five for some file, so a run ends after exactly that many.
* `Reaches.outcome`: a run that is over has ended as `close` says, from a sound pool.
-/

namespace ScriptLint

/-- Files to lint, and how each of them is linted by itself. -/
structure Batch (α : Type) where
  items : List α
  lint : α → FileResult
  path : α → FilePath

namespace Batch

/-- How far a file has come. -/
inductive Stage where
  | waiting
  | working
  | linted (result : FileResult)
  /-- The file is counted, and that many are with it. -/
  | counted (result : FileResult) (completed : Nat)
  | reported (result : FileResult)
  | delivered

namespace Stage

/-- The number of turns that are left. -/
def left : Stage → Nat
  | waiting => 5
  | working => 4
  | linted _ => 3
  | counted .. => 2
  | reported _ => 1
  | delivered => 0

def result? : Stage → Option FileResult
  | linted result => some result
  | counted result _ => some result
  | reported result => some result
  | _ => none

end Stage

/-- A file, its place among the files, and how far it has come. -/
structure Job (α : Type) where
  item : α
  place : Nat
  stage : Stage

/-- What all workers write to. -/
structure Shared where
  completed : Nat
  reports : List Progress
  results : List (FileResult × Nat)

structure Pool (α : Type) where
  jobs : List (Job α)
  shared : Shared
  /-- The results in the order of the files, as soon as the run is over. -/
  answer : Option (List FileResult)

variable {α : Type}

/-- No file has been taken up. -/
def start (b : Batch α) : Pool α :=
  ⟨b.items.zipIdx.map fun entry => ⟨entry.1, entry.2, .waiting⟩, ⟨0, [], []⟩, none⟩

/-- What a worker does next with a file. To count it is one move, so no number is given twice; but
before the number is reported, other workers may count and report. -/
inductive Move (b : Batch α) (item : α) (place : Nat) : Stage → Shared → Stage → Shared → Prop
  | start {s : Shared} : Move b item place .waiting s .working s
  | lint {s : Shared} : Move b item place .working s (.linted (b.lint item)) s
  | count {s : Shared} {result : FileResult} :
    Move b item place (.linted result) s (.counted result (s.completed + 1))
      { s with completed := s.completed + 1 }
  | report {s : Shared} {result : FileResult} {completed : Nat} :
    Move b item place (.counted result completed) s (.reported result)
      { s with reports := s.reports ++ [⟨b.items.length, completed, some (b.path item)⟩] }
  | deliver {s : Shared} {result : FileResult} :
    Move b item place (.reported result) s .delivered
      { s with results := s.results ++ [(result, place)] }

/-- All results are handed in. -/
def AllDelivered (jobs : List (Job α)) : Prop := ∀ job ∈ jobs, job.stage = .delivered

/-- Results with the places of their files, put in the order of the places. -/
def inOrder (results : List (FileResult × Nat)) : List FileResult :=
  (results.mergeSort fun x y => x.2 ≤ y.2).map Prod.fst

/-- The end of a run. -/
def close (b : Batch α) (jobs : List (Job α)) (s : Shared) : Pool α :=
  ⟨jobs, { s with reports := s.reports ++ [⟨b.items.length, b.items.length, none⟩] },
    some (inOrder s.results)⟩

/-- One turn of some worker, or the end, which waits for all workers. -/
inductive Step (b : Batch α) : Pool α → Pool α → Prop
  | turn {before after : List (Job α)} {item : α} {place : Nat} {stage stage' : Stage}
    {s s' : Shared} {answer : Option (List FileResult)}
    (move : Move b item place stage s stage' s') :
    Step b ⟨before ++ ⟨item, place, stage⟩ :: after, s, answer⟩
      ⟨before ++ ⟨item, place, stage'⟩ :: after, s', answer⟩
  | close {jobs : List (Job α)} {s : Shared} (all : AllDelivered jobs) :
    Step b ⟨jobs, s, none⟩ (b.close jobs s)

/-- The pools that a number of turns can lead to. -/
inductive Reaches (b : Batch α) : Nat → Pool α → Prop
  | start : Reaches b 0 b.start
  | next {n : Nat} {p q : Pool α} (reached : Reaches b n p) (step : Step b p q) :
    Reaches b (n + 1) q

/-- The reports of a run, if anyone listens. -/
def Pool.heard (p : Pool α) (e : Execution) : List Progress :=
  if e.reportsProgress then p.shared.reports else []

variable {b : Batch α} {p q : Pool α} {jobs : List (Job α)} {s : Shared} {n : Nat}

/-! ## Turns -/

/-- The turns that are left for files. -/
def turnsLeft (jobs : List (Job α)) : Nat := jobs.foldr (fun job n => job.stage.left + n) 0

/-- The turns that are left, with the end. -/
def Pool.left (p : Pool α) : Nat := turnsLeft p.jobs + if p.answer.isSome then 0 else 1

theorem turnsLeft_append (before : List (Job α)) (job : Job α) (after : List (Job α)) :
    turnsLeft (before ++ job :: after) = job.stage.left + turnsLeft (before ++ after) := by
  induction before with
  | nil => rfl
  | cons first before ih =>
    simp only [turnsLeft, List.cons_append, List.foldr_cons] at ih ⊢
    omega

theorem turnsLeft_eq_zero_iff : turnsLeft jobs = 0 ↔ AllDelivered jobs := by
  induction jobs with
  | nil => exact ⟨fun _ => nofun, fun _ => rfl⟩
  | cons job jobs ih =>
    have last : job.stage.left = 0 ↔ job.stage = .delivered := by
      cases job.stage <;> simp [Stage.left]
    have parts : turnsLeft (job :: jobs) = job.stage.left + turnsLeft jobs := rfl
    rw [parts, Nat.add_eq_zero_iff, last, ih]
    simp only [AllDelivered, List.forall_mem_cons]

theorem Step.left (step : Step b p q) : q.left + 1 = p.left := by
  cases step with
  | turn move =>
    simp only [Pool.left, turnsLeft_append]
    cases move <;> simp only [Stage.left] <;> omega
  | close all => rfl

theorem left_start (b : Batch α) : b.start.left = 5 * b.items.length + 1 := by
  have all : ∀ entries : List (α × Nat), turnsLeft (entries.map fun entry =>
      ⟨entry.1, entry.2, .waiting⟩) = 5 * entries.length := by
    intro entries
    induction entries with
    | nil => rfl
    | cons entry entries ih =>
      simp only [turnsLeft, List.map_cons, List.foldr_cons, Stage.left, List.length_cons] at ih ⊢
      omega
  simp only [Pool.left, start, all, List.length_zipIdx, Option.isSome_none, Bool.false_eq_true,
    if_false]

/-- No turn is lost, and none is made twice. -/
theorem Reaches.turns (reached : Reaches b n p) : n + p.left = 5 * b.items.length + 1 := by
  induction reached with
  | start => rw [left_start, Nat.zero_add]
  | next _ step ih =>
    have := step.left
    omega

/-- A file that is not handed in can be gone on with, whatever the other workers do. -/
theorem exists_move (b : Batch α) (item : α) (place : Nat) (s : Shared) {stage : Stage}
    (open_ : stage ≠ .delivered) : ∃ stage' s', Move b item place stage s stage' s' := by
  cases stage with
  | waiting => exact ⟨_, _, .start⟩
  | working => exact ⟨_, _, .lint⟩
  | linted result => exact ⟨_, _, .count⟩
  | counted result completed => exact ⟨_, _, .report⟩
  | reported result => exact ⟨_, _, .deliver⟩
  | delivered => exact absurd rfl open_

theorem exists_step (b : Batch α) (open_ : p.answer = none) : ∃ q, Step b p q := by
  obtain ⟨jobs, s, answer⟩ := p
  obtain rfl : answer = none := open_
  by_cases all : AllDelivered jobs
  · exact ⟨_, .close all⟩
  · obtain ⟨job, mem, stage⟩ : ∃ job ∈ jobs, job.stage ≠ .delivered := by
      simpa [AllDelivered] using all
    obtain ⟨before, after, rfl⟩ := List.append_of_mem mem
    obtain ⟨stage', s', move⟩ := exists_move b job.item job.place s stage
    exact ⟨_, .turn move⟩

/-! ## What a turn keeps -/

namespace Job

/-- A result that is handed in. -/
def delivery? (b : Batch α) (job : Job α) : Option (FileResult × Nat) :=
  match job.stage with
  | .delivered => some (b.lint job.item, job.place)
  | _ => none

/-- A file that is counted. -/
def counted? (b : Batch α) (job : Job α) : Option FilePath :=
  match job.stage with
  | .counted .. | .reported _ | .delivered => some (b.path job.item)
  | _ => none

/-- A report whose number is fixed and that is still to be made. -/
def pending? (b : Batch α) (job : Job α) : Option Progress :=
  match job.stage with
  | .counted _ completed => some ⟨b.items.length, completed, some (b.path job.item)⟩
  | _ => none

end Job

/-- The reports for files in the order in which they are counted. -/
def numbered (total : Nat) (finished : List FilePath) : List Progress :=
  (finished.zipIdx 1).map fun entry => ⟨total, entry.2, some entry.1⟩

theorem numbered_concat (total : Nat) (finished : List FilePath) (path : FilePath) :
    numbered total (finished ++ [path]) =
      numbered total finished ++ [⟨total, finished.length + 1, some path⟩] := by
  simp [numbered, List.zipIdx_append, Nat.add_comm]

/-- What holds after any number of turns of the workers. -/
structure Sound (b : Batch α) (jobs : List (Job α)) (s : Shared) : Prop where
  files : jobs.map (fun job => (job.item, job.place)) = b.items.zipIdx
  results : ∀ job ∈ jobs, ∀ result, job.stage.result? = some result → result = b.lint job.item
  delivered : s.results.Perm (jobs.filterMap (Job.delivery? b))
  reports : ∃ finished, finished.length = s.completed ∧
    finished.Perm (jobs.filterMap (Job.counted? b)) ∧
    (s.reports ++ jobs.filterMap (Job.pending? b)).Perm (numbered b.items.length finished)

theorem sound_start (b : Batch α) : Sound b b.start.jobs b.start.shared := by
  have nothing : ∀ {β : Type} (f : Job α → Option β),
      (∀ item place, f ⟨item, place, .waiting⟩ = none) → b.start.jobs.filterMap f = [] := by
    intro β f none
    refine List.filterMap_eq_nil_iff.2 fun job mem => ?_
    obtain ⟨entry, -, rfl⟩ := List.mem_map.1 mem
    exact none _ _
  constructor
  case files => simp [start, Function.comp_def]
  case results =>
    intro job mem result at_
    obtain ⟨entry, -, rfl⟩ := List.mem_map.1 mem
    cases at_
  case delivered =>
    rw [nothing _ fun _ _ => rfl]
    exact .nil
  case reports =>
    refine ⟨[], rfl, ?_, ?_⟩
    · rw [nothing _ fun _ _ => rfl]
    · rw [nothing _ fun _ _ => rfl]
      exact .nil

section
variable {before after : List (Job α)} {item : α} {place : Nat} {stage stage' : Stage}
  {s s' : Shared}

theorem results_turn (move : Move b item place stage s stage' s')
    (sound : Sound b (before ++ ⟨item, place, stage⟩ :: after) s) :
    ∀ job ∈ before ++ ⟨item, place, stage'⟩ :: after, ∀ result,
      job.stage.result? = some result → result = b.lint job.item := by
  have old := sound.results
  simp only [List.forall_mem_append, List.forall_mem_cons] at old ⊢
  refine ⟨old.1, ?_, old.2.2⟩
  intro result made
  cases move with
  | start => cases made
  | lint => exact (Option.some.inj made).symm
  | count => exact old.2.1 result made
  | report => exact old.2.1 result made
  | deliver => cases made

theorem delivered_turn (move : Move b item place stage s stage' s')
    (sound : Sound b (before ++ ⟨item, place, stage⟩ :: after) s) :
    s'.results.Perm ((before ++ ⟨item, place, stage'⟩ :: after).filterMap (Job.delivery? b)) := by
  have old := sound.delivered
  simp only [List.filterMap_append, List.filterMap_cons] at old ⊢
  cases move with
  | start => exact old
  | lint => exact old
  | count => exact old
  | report => exact old
  | @deliver s result =>
    have own : result = b.lint item :=
      sound.results ⟨item, place, .reported result⟩ (by simp) result rfl
    rw [own]
    have added : (s.results ++ [(b.lint item, place)]).Perm ((b.lint item, place) :: _) :=
      (List.perm_append_singleton _ _).trans (old.cons _)
    exact added.trans List.perm_middle.symm

/-- Counting adds the file to those finished, with the next number; reporting takes the report from
those that are still to be made. -/
theorem reports_turn (move : Move b item place stage s stage' s')
    (sound : Sound b (before ++ ⟨item, place, stage⟩ :: after) s) :
    ∃ finished, finished.length = s'.completed ∧
      finished.Perm ((before ++ ⟨item, place, stage'⟩ :: after).filterMap (Job.counted? b)) ∧
      (s'.reports ++ (before ++ ⟨item, place, stage'⟩ :: after).filterMap (Job.pending? b)).Perm
        (numbered b.items.length finished) := by
  obtain ⟨finished, number, counted, reported⟩ := sound.reports
  simp only [List.filterMap_append, List.filterMap_cons] at counted reported ⊢
  cases move with
  | start => exact ⟨finished, number, counted, reported⟩
  | lint => exact ⟨finished, number, counted, reported⟩
  | count =>
    refine ⟨finished ++ [b.path item], by simp [number], ?_, ?_⟩
    · exact (List.perm_append_singleton _ _).trans ((counted.cons _).trans List.perm_middle.symm)
    · rw [numbered_concat, number]
      refine .trans ?_ (reported.append_right _)
      rw [List.append_assoc]
      refine .append_left _ ?_
      exact List.perm_middle.trans (List.perm_append_singleton _ _).symm
  | report =>
    refine ⟨finished, number, counted, .trans ?_ reported⟩
    rw [List.append_assoc, List.singleton_append]
    exact .append_left _ List.perm_middle.symm
  | deliver => exact ⟨finished, number, counted, reported⟩

end

/-- The pools of a run: the workers are at work, or the run is over. -/
inductive Kept (b : Batch α) : Pool α → Prop
  | working {jobs : List (Job α)} {s : Shared} (sound : Sound b jobs s) : Kept b ⟨jobs, s, none⟩
  | closed {jobs : List (Job α)} {s : Shared} (sound : Sound b jobs s) (all : AllDelivered jobs) :
    Kept b (b.close jobs s)

theorem Step.kept (step : Step b p q) (kept : Kept b p) : Kept b q := by
  cases step with
  | turn move =>
    cases kept with
    | working sound =>
      refine .working ⟨?_, results_turn move sound, delivered_turn move sound,
        reports_turn move sound⟩
      simpa using sound.files
    | closed sound all =>
      -- No worker has a move left.
      cases all _ (List.mem_append_cons_self)
      cases move
  | close all =>
    cases kept with
    | working sound => exact .closed sound all

theorem Reaches.kept (reached : Reaches b n p) : Kept b p := by
  induction reached with
  | start => exact .working (sound_start b)
  | next _ step ih => exact step.kept ih

/-- A run that is over has ended when all results were handed in. -/
theorem Reaches.outcome {answer : List FileResult} (reached : Reaches b n p)
    (closed : p.answer = some answer) :
    ∃ jobs s, Sound b jobs s ∧ AllDelivered jobs ∧ p = b.close jobs s := by
  cases reached.kept with
  | working sound => cases closed
  | closed sound all => exact ⟨_, _, sound, all, rfl⟩

end Batch

end ScriptLint
