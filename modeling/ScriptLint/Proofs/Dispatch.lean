import ScriptLint.Dispatch
import ScriptLint.Proofs.Rule.Report

/-!
# What a run of the rules finds

The table finds the slots of a topic in their order (`Table.getD_ofSlots`), so a run needs no table
(`run_eq_runSlots`). Every diagnostic of a run was reported by one of its rules about the text of
the run (`run_reported`): the workers of a run keep the context that their rule was set up with.
-/

namespace ScriptLint

variable {rules : List ConfiguredRule} {settings : Json} {source : Source}

namespace Table

theorem getD_add (table : Table) (entry : (SyntaxKind × Phase) × Slot)
    (topic : SyntaxKind × Phase) :
    (table.add entry).getD topic [] =
      table.getD topic [] ++ if entry.1 = topic then [entry.2] else [] := by
  by_cases same : entry.1 = topic
  · subst same
    simp [add]
  · simp [add, Std.HashMap.getD_insert, same]

/-- The slots that a list has for a topic, in order. -/
def slotsFor (slots : List ((SyntaxKind × Phase) × Slot)) (topic : SyntaxKind × Phase) :
    List Slot :=
  (slots.filter fun entry => entry.1 = topic).map Prod.snd

theorem getD_foldl_add (table : Table) (slots : List ((SyntaxKind × Phase) × Slot))
    (topic : SyntaxKind × Phase) :
    (slots.foldl add table).getD topic [] = table.getD topic [] ++ slotsFor slots topic := by
  induction slots generalizing table with
  | nil => simp [slotsFor]
  | cons entry slots ih =>
    rw [List.foldl_cons, ih, getD_add, List.append_assoc]
    by_cases same : entry.1 = topic <;> simp [slotsFor, same]

theorem getD_ofSlots (slots : List ((SyntaxKind × Phase) × Slot)) (topic : SyntaxKind × Phase) :
    (ofSlots slots).getD topic [] = slotsFor slots topic := by
  simp [ofSlots, getD_foldl_add]

end Table

theorem Setup.context_of_mem {w : Worker}
    (mem : w ∈ (Setup.ofRules settings source rules).workers) :
    ∃ r ∈ rules, w.context = r.context settings source := by
  induction rules with
  | nil => simp [Setup.ofRules] at mem
  | cons r rules ih =>
    simp only [Setup.ofRules] at mem
    split at mem
    · rcases List.mem_cons.1 mem with rfl | later
      · exact ⟨r, List.mem_cons_self, rfl⟩
      · obtain ⟨other, among, context⟩ := ih later
        exact ⟨other, List.mem_cons_of_mem r among, context⟩
    · obtain ⟨other, among, context⟩ := ih mem
      exact ⟨other, List.mem_cons_of_mem r among, context⟩

theorem Worker.step_reported (w : Worker) (subscription : Nat) (site : Site) :
    (w.step subscription site).worker.context = w.context ∧
      ∀ d ∈ (w.step subscription site).diagnostics,
        d.ReportedBy w.context.info.id w.context.source.text := by
  simp only [Worker.step]
  split
  · rename_i s state _ _
    have reported := Action.run_reported w.context (s.handle w.context site state)
    split
    · exact ⟨rfl, reported⟩
    · exact ⟨rfl, reported⟩
  · simp [Worker.rest]

/-- The workers of a run are set up by its rules, and its diagnostics are reported by them. -/
structure Run.Sound (rules : List ConfiguredRule) (settings : Json) (source : Source) (run : Run) :
    Prop where
  contexts : ∀ w ∈ run.workers, ∃ r ∈ rules, w.context = r.context settings source
  reported : ∀ d ∈ run.diagnostics, ∃ r ∈ rules, d.ReportedBy r.id source.text

namespace Run

theorem sound_start : (Run.start (Setup.ofRules settings source rules).workers).Sound
    rules settings source :=
  ⟨fun _ => Setup.context_of_mem, by simp [Run.start]⟩

theorem Sound.step {run : Run} (sound : run.Sound rules settings source) (site : Site)
    (slot : Slot) : (run.step site slot).Sound rules settings source := by
  unfold Run.step
  split
  · exact sound
  · rename_i worker found
    obtain ⟨r, among, context⟩ := sound.contexts worker (List.mem_of_getElem? found)
    obtain ⟨kept, reported⟩ := worker.step_reported slot.subscription site
    rw [context] at kept reported
    refine ⟨fun w mem => ?_, fun d mem => ?_⟩
    · rcases List.mem_or_eq_of_mem_set mem with before | rfl
      · exact sound.contexts w before
      · exact ⟨r, among, kept⟩
    · rcases List.mem_append.1 mem with new | before
      · exact ⟨r, among, reported d (List.mem_reverse.1 new)⟩
      · exact sound.reported d before

theorem Sound.visit {run : Run} (sound : run.Sound rules settings source) (table : Table)
    (event : Phase × Site) : (run.visit table event).Sound rules settings source :=
  List.foldlRecOn _ _ sound fun _ sound slot _ => sound.step event.2 slot

end Run

/-- Runs the handlers that a list has for a step of the walk. -/
def Run.visitSlots (slots : List ((SyntaxKind × Phase) × Slot)) (run : Run) (event : Phase × Site) :
    Run :=
  (Table.slotsFor slots (event.2.kind, event.1)).foldl (Run.step event.2) run

theorem Run.visit_ofSlots (slots : List ((SyntaxKind × Phase) × Slot)) :
    Run.visit (Table.ofSlots slots) = Run.visitSlots slots := by
  funext run event
  simp only [Run.visit, Run.visitSlots, Table.getD_ofSlots]

namespace Dispatch

/-- A run that looks for the handlers of a step in the list of all. -/
def runSlots (rules : List ConfiguredRule) (settings : Json) (source : Source) : Dispatch :=
  let setup := Setup.ofRules settings source rules
  ofRun setup.skipped
    (source.tree.walk.foldl (Run.visitSlots setup.slots) (Run.start setup.workers))

theorem run_eq_runSlots (rules : List ConfiguredRule) (settings : Json) (source : Source) :
    run rules settings source = runSlots rules settings source := by
  simp only [run, runSlots, Run.visit_ofSlots]

theorem run_reported {d : Diagnostic}
    (mem : d ∈ (Dispatch.run rules settings source).diagnostics) :
    ∃ r ∈ rules, d.ReportedBy r.id source.text := by
  have sound := List.foldlRecOn (motive := Run.Sound rules settings source) source.tree.walk
    (Run.visit (Table.ofSlots (Setup.ofRules settings source rules).slots)) Run.sound_start
    fun _ sound event _ => sound.visit _ event
  exact sound.reported d (List.mem_reverse.1 mem)

end Dispatch

end ScriptLint
