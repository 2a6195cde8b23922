import Mathlib.Data.List.Basic
import ScriptLint.Proofs.Execution.Workers

/-!
# Whatever turns the workers take

A run of the workers comes to an end, and what it comes to does not depend on the turns: the results
are those of linting the files one after the other, and the reports are those of some order of
finishing the files, made in some order, with the last report behind them (`lint_in_turns`).
-/

namespace ScriptLint

/-- The last report follows those of the files. -/
theorem Progress.reports_eq_numbered (total : Nat) (finished : List FilePath) :
    Progress.reports total 0 finished = Batch.numbered total finished ++ [⟨total, total, none⟩] := by
  have from_ : ∀ completed, Progress.reports total completed finished =
      ((finished.zipIdx (completed + 1)).map fun entry => ⟨total, entry.2, some entry.1⟩) ++
        [⟨total, total, none⟩] := by
    induction finished with
    | nil => exact fun _ => rfl
    | cons path rest ih =>
      intro completed
      rw [Progress.reports, ih]
      rfl
  exact from_ 0

namespace Batch

variable {α : Type} {b : Batch α} {jobs : List (Job α)} {s : Shared}

/-! ## All results handed in -/

/-- What is read off every job, if it depends on the file alone. -/
theorem Sound.filterMap_jobs {β : Type} {f : Job α → Option β} {g : α × Nat → β}
    (sound : Sound b jobs s) (reads : ∀ job ∈ jobs, f job = some (g (job.item, job.place))) :
    jobs.filterMap f = b.items.zipIdx.map g := by
  rw [← sound.files, List.map_map]
  exact List.filterMap_eq_map_iff_forall_eq_some.2 reads

theorem Sound.results_of_all (sound : Sound b jobs s) (delivered : AllDelivered jobs) :
    s.results.Perm (b.items.zipIdx.map fun entry => (b.lint entry.1, entry.2)) := by
  have all : jobs.filterMap (Job.delivery? b) =
      b.items.zipIdx.map fun entry => (b.lint entry.1, entry.2) := by
    refine sound.filterMap_jobs fun job mem => ?_
    rw [Job.delivery?, delivered job mem]
  exact all ▸ sound.delivered

theorem Sound.reports_of_all (sound : Sound b jobs s) (delivered : AllDelivered jobs) :
    ∃ finished : List FilePath, finished.Perm (b.items.map b.path) ∧
      s.reports.Perm (numbered b.items.length finished) := by
  obtain ⟨finished, -, counted, reported⟩ := sound.reports
  have all : jobs.filterMap (Job.counted? b) = b.items.map b.path := by
    have read : jobs.filterMap (Job.counted? b) =
        b.items.zipIdx.map fun entry => b.path entry.1 := by
      refine sound.filterMap_jobs fun job mem => ?_
      rw [Job.counted?, delivered job mem]
    rw [read, ← Function.comp_def, ← List.map_map, List.zipIdx_map_fst]
  have none : jobs.filterMap (Job.pending? b) = [] := by
    refine List.filterMap_eq_nil_iff.2 fun job mem => ?_
    rw [Job.pending?, delivered job mem]
  rw [none, List.append_nil] at reported
  exact ⟨finished, all ▸ counted, reported⟩

/-- In whatever order results are handed in, the places bring them into the order of the files. -/
theorem inOrder_places {items : List α} {lint : α → FileResult} {results : List (FileResult × Nat)}
    (handed : results.Perm (items.zipIdx.map fun entry => (lint entry.1, entry.2))) :
    inOrder results = items.map lint := by
  have placed : ∀ entry ∈ items.zipIdx.map fun entry => (lint entry.1, entry.2),
      items[entry.2]?.map lint = some entry.1 := by
    intro entry mem
    obtain ⟨own, there, rfl⟩ := List.mem_map.1 mem
    rw [List.mem_zipIdx_iff_getElem?.1 there, Option.map_some]
  have sorted : (results.mergeSort fun x y => x.2 ≤ y.2).Pairwise fun x y => x.2 ≤ y.2 := by
    refine (List.pairwise_mergeSort ?_ ?_ results).imp of_decide_eq_true
    · simp only [decide_eq_true_eq]
      omega
    · simp only [Bool.or_eq_true, decide_eq_true_eq]
      omega
  have ascending : (items.zipIdx.map fun entry => (lint entry.1, entry.2)).Pairwise
      fun x y => x.2 ≤ y.2 := by
    have places : (items.zipIdx.map Prod.snd).Pairwise (· ≤ ·) :=
      List.zipIdx_map_snd 0 items ▸ List.pairwise_le_range'
    exact List.pairwise_map.2 (List.pairwise_map.1 places)
  have same : (results.mergeSort fun x y => x.2 ≤ y.2) =
      items.zipIdx.map fun entry => (lint entry.1, entry.2) := by
    refine List.Perm.eq_of_pairwise ?_ sorted ascending ((List.mergeSort_perm _ _).trans handed)
    intro x y memX memY le ge
    have place : x.2 = y.2 := Nat.le_antisymm le ge
    have ofX := placed x (handed.mem_iff.1 ((List.mergeSort_perm _ _).mem_iff.1 memX))
    have ofY := placed y memY
    rw [place, ofY] at ofX
    exact Prod.ext (Option.some.inj ofX).symm place
  rw [inOrder, same, List.map_map]
  show items.zipIdx.map (lint ∘ Prod.fst) = _
  rw [← List.map_map, List.zipIdx_map_fst]

/-- What is reported of a batch: every number up to that of the files once, and every file once. -/
structure Told (b : Batch α) (reports : List Progress) : Prop where
  total : ∀ report ∈ reports, report.total = b.items.length
  numbers : (reports.map Progress.completed).Perm (List.range' 1 b.items.length)
  files : (reports.map Progress.current).Perm (b.items.map fun item => some (b.path item))

theorem told_numbered {finished : List FilePath} (all : finished.Perm (b.items.map b.path)) :
    b.Told (numbered b.items.length finished) where
  total := by
    intro report mem
    obtain ⟨entry, -, rfl⟩ := List.mem_map.1 mem
    rfl
  numbers := by
    have size : finished.length = b.items.length := by simpa using all.length_eq
    rw [numbered, List.map_map]
    show ((finished.zipIdx 1).map Prod.snd).Perm _
    rw [List.zipIdx_map_snd, size]
  files := by
    rw [numbered, List.map_map]
    show ((finished.zipIdx 1).map (some ∘ Prod.fst)).Perm _
    rw [← List.map_map, List.zipIdx_map_fst]
    simpa [Function.comp_def] using all.map some

theorem Told.of_perm {reports reports' : List Progress} (told : b.Told reports)
    (same : reports'.Perm reports) : b.Told reports' where
  total := fun report mem => told.total report (same.mem_iff.1 mem)
  numbers := (same.map _).trans told.numbers
  files := (same.map _).trans told.files

/-- What linting files comes to, whatever turns the workers take. -/
structure ComesTo (b : Batch α) (e : Execution) (results : List FileResult) : Prop where
  /-- Each file takes five turns and the end another one. Up to there some turn can be taken. -/
  ends : ∀ n p, Reaches b n p →
    (p.answer.isSome ∧ n = 5 * b.items.length + 1) ∨
      (p.answer = none ∧ n < 5 * b.items.length + 1 ∧ ∃ q, Step b p q)
  answer : ∀ n p answer, Reaches b n p → p.answer = some answer → answer = results
  summary : ∀ n p answer, Reaches b n p → p.answer = some answer →
    Summary.ofResults answer = Summary.ofResults results ∧
      (Summary.ofResults answer).exitCode = (Summary.ofResults results).exitCode
  /-- The last report comes behind those of the files. -/
  heard : ∀ n p answer, Reaches b n p → p.answer = some answer → e.reportsProgress = true →
    ∃ reports, p.heard e = reports ++ [⟨b.items.length, b.items.length, none⟩] ∧ b.Told reports
  /-- The reports are those for some order of finishing the files, if anyone listens. -/
  order : ∀ n p answer, Reaches b n p → p.answer = some answer →
    ∃ finished : List FilePath, finished.Perm (b.items.map b.path) ∧
      (p.heard e).Perm (e.progress finished)

theorem comesTo (b : Batch α) (e : Execution) : b.ComesTo e (b.items.map b.lint) := by
  have answered : ∀ {n p answer}, Reaches b n p → p.answer = some answer →
      answer = b.items.map b.lint := by
    intro n p answer reached closed
    obtain ⟨jobs, s, sound, all, rfl⟩ := reached.outcome closed
    have given : inOrder s.results = answer := Option.some.inj closed
    exact given.symm.trans (inOrder_places (sound.results_of_all all))
  constructor
  case ends =>
    intro n p reached
    have turns := reached.turns
    cases answer : p.answer with
    | some answer =>
      obtain ⟨jobs, s, -, all, rfl⟩ := reached.outcome answer
      have none : (b.close jobs s).left = 0 := by
        simp [Pool.left, close, turnsLeft_eq_zero_iff.2 all]
      exact .inl ⟨rfl, by omega⟩
    | none =>
      have some : 0 < p.left := by simp [Pool.left, answer]
      exact .inr ⟨rfl, by omega, exists_step b answer⟩
  case answer => exact fun n p answer reached closed => answered reached closed
  case summary =>
    intro n p answer reached closed
    rw [answered reached closed]
    exact ⟨rfl, rfl⟩
  case heard =>
    intro n p answer reached closed listens
    obtain ⟨jobs, s, sound, all, rfl⟩ := reached.outcome closed
    obtain ⟨finished, files, reported⟩ := sound.reports_of_all all
    exact ⟨s.reports, if_pos listens, (told_numbered files).of_perm reported⟩
  case order =>
    intro n p answer reached closed
    obtain ⟨jobs, s, sound, all, rfl⟩ := reached.outcome closed
    obtain ⟨finished, files, reported⟩ := sound.reports_of_all all
    refine ⟨finished, files, ?_⟩
    have size : finished.length = b.items.length := by simpa using files.length_eq
    unfold Pool.heard Execution.progress
    split
    · rw [size, Progress.reports_eq_numbered]
      exact reported.append_right _
    · exact .nil

end Batch

namespace Execution

/-- However the workers take turns, every run of them ends, with the results of linting each file by
itself, in the order of the files. So what the results sum up to does not depend on the turns either.
The reports name every file once and every number up to that of the files once, and the last one,
behind all of these, names no file. -/
theorem lint_in_turns (e : Execution) (fs : FileSystem) (files : List SourceFile)
    (paths : List FilePath) :
    (Batch.mk files e.lintSource SourceFile.path).ComesTo e (e.lintSources files) ∧
      (Batch.mk paths (e.lintFile fs) id).ComesTo e (e.lintFiles fs paths) :=
  ⟨Batch.comesTo _ e, Batch.comesTo _ e⟩

end Execution

end ScriptLint
