import ScriptLint.Proofs.Dispatch

/-!
# Running rules in order

Without a table, numbers of subscriptions and a shared run: at every step of the walk each rule that
has not failed is asked in turn, and answers with those of its subscriptions that the step meets, in
the order in which they are declared (`Worker.attend`). What the rules leave behind at a step is a
list of findings, and every finding keeps the label of its rule (`Dispatch.follow`).

The run with the table finds the same, in the same order (`run_eq_ofFindings`). The steps of the walk enter
the nodes of the tree in document order and leave each of them behind those inside it
(`Source.map_node_sites`, `Source.map_node_left`).
-/

namespace ScriptLint

/-- What a rule leaves behind in a run. -/
inductive Finding where
  | diagnostic (d : Diagnostic)
  | note (line : String)
  | failure (e : LintError)

namespace Finding

def diagnostic? : Finding → Option Diagnostic
  | diagnostic d => some d
  | _ => none

def note? : Finding → Option String
  | note line => some line
  | _ => none

def failure? : Finding → Option LintError
  | failure e => some e
  | _ => none

end Finding

namespace Action.Result

variable {σ : Type}

/-- A result, and if it is no failure what follows from the state it ends in. -/
def andThen (r : Result σ) (next : σ → Result σ) : Result σ :=
  match r.ending with
  | .error failure => { r with ending := .error failure }
  | .ok state =>
    { next state with
      diagnostics := r.diagnostics ++ (next state).diagnostics
      notes := r.notes ++ (next state).notes }

def failure? (r : Result σ) : Option Failure :=
  match r.ending with
  | .error failure => some failure
  | .ok _ => none

theorem failure?_of_ok {r : Result σ} {state : σ} (ok : r.ending = .ok state) :
    r.failure? = none := by
  rw [failure?, ok]

theorem failure?_eq_some {r : Result σ} {failure : Failure} :
    r.failure? = some failure ↔ r.ending = .error failure := by
  rw [failure?]
  cases r.ending <;> simp

/-- What a result of a rule leaves behind. -/
def findings (rule : String) (r : Result σ) : List Finding :=
  r.diagnostics.map .diagnostic ++ r.notes.map .note ++
    (r.failure?.map fun failure => .failure (.ruleCrash rule failure)).toList

end Action.Result

namespace Subscription

variable {σ : Type}

def topic (s : Subscription σ) : SyntaxKind × Phase := (s.kind, s.phase)

/-- Whether a step of the walk is of the kind and phase that is subscribed to. -/
def meets (event : Phase × Site) (s : Subscription σ) : Bool :=
  s.kind = event.2.kind ∧ s.phase = event.1

/-- Runs the subscriptions that a step meets, one after another, until one fails. -/
def serve (ctx : RuleContext) (event : Phase × Site) :
    List (Subscription σ) → σ → Action.Result σ
  | [], state => ⟨[], [], .ok state⟩
  | s :: rest, state =>
    if s.meets event then
      ((s.handle ctx event.2 state).run ctx).andThen (serve ctx event rest)
    else serve ctx event rest state

end Subscription

/-- A worker at a step of the walk: what it is behind the step and what it leaves there. A worker
that has failed does nothing. -/
def Worker.attend (event : Phase × Site) (w : Worker) : Worker × List Finding :=
  match w.state with
  | none => (w, [])
  | some state =>
    let r := Subscription.serve w.context event w.visitor.subscriptions state
    ({ w with state := r.ending.toOption }, r.findings w.id)

/-- The worker of a rule on a file, unless the rule skips the file. -/
def ConfiguredRule.worker? (settings : Json) (source : Source) (r : ConfiguredRule) :
    Option Worker :=
  let ctx := r.context settings source
  match r.rule.create ctx with
  | .error _ => none
  | .ok visitor => some ⟨ctx, visitor, some visitor.start⟩

def ConfiguredRule.skip? (settings : Json) (source : Source) (r : ConfiguredRule) :
    Option SkippedRule :=
  match r.rule.create (r.context settings source) with
  | .error reason => some ⟨r.id, reason⟩
  | .ok _ => none

namespace Dispatch

variable {α : Type}

/-- The findings of workers at the steps of a walk, each with the label of its worker. -/
def follow : List (Phase × Site) → List (Worker × α) → List (Finding × α)
  | [], _ => []
  | event :: walk, ws =>
    (ws.flatMap fun w => (w.1.attend event).2.map fun f => (f, w.2)) ++
      follow walk (ws.map fun w => ((w.1.attend event).1, w.2))

/-- The findings of labelled rules on a file. -/
def findings (settings : Json) (source : Source) (rules : List (ConfiguredRule × α)) :
    List (Finding × α) :=
  follow source.tree.walk
    (rules.filterMap fun r => (r.1.worker? settings source).map fun w => (w, r.2))

/-- The labelled rules that skip a file. -/
def skips (settings : Json) (source : Source) (rules : List (ConfiguredRule × α)) :
    List (SkippedRule × α) :=
  rules.filterMap fun r => (r.1.skip? settings source).map fun s => (s, r.2)

/-- What findings come to; the first failure among them is the error. -/
def ofFindings (skipped : List SkippedRule) (found : List Finding) : Dispatch :=
  ⟨found.filterMap Finding.diagnostic?, skipped, found.findSome? Finding.failure?,
    found.filterMap Finding.note?⟩

end Dispatch

namespace Run

/-- A run with other workers, and with findings added. -/
def add (run : Run) (workers : List Worker) (found : List Finding) : Run where
  workers := workers
  diagnostics := (found.filterMap Finding.diagnostic?).reverse ++ run.diagnostics
  notes := (found.filterMap Finding.note?).reverse ++ run.notes
  error := run.error.or (found.findSome? Finding.failure?)

theorem add_self (run : Run) : run.add run.workers [] = run := by simp [add]

theorem add_add (run : Run) (ws workers : List Worker) (found more : List Finding) :
    (run.add ws found).add workers more = run.add workers (found ++ more) := by
  simp [add, List.findSome?_append, Option.or_assoc]

end Run

section
variable {σ : Type} (rule : String) (r : Action.Result σ)

theorem diagnostics_findings :
    (r.findings rule).filterMap Finding.diagnostic? = r.diagnostics := by
  have rest : ∀ l : List String, l.filterMap (Finding.diagnostic? ∘ .note) = [] :=
    fun _ => List.filterMap_eq_nil_iff.2 fun _ _ => rfl
  have all : ∀ l : List Diagnostic, l.filterMap (Finding.diagnostic? ∘ .diagnostic) = l :=
    fun _ => List.filterMap_some
  simp only [Action.Result.findings, List.filterMap_append, List.filterMap_map, all, rest]
  cases r.failure? <;> simp [Finding.diagnostic?]

theorem notes_findings : (r.findings rule).filterMap Finding.note? = r.notes := by
  have rest : ∀ l : List Diagnostic, l.filterMap (Finding.note? ∘ .diagnostic) = [] :=
    fun _ => List.filterMap_eq_nil_iff.2 fun _ _ => rfl
  have all : ∀ l : List String, l.filterMap (Finding.note? ∘ .note) = l :=
    fun _ => List.filterMap_some
  simp only [Action.Result.findings, List.filterMap_append, List.filterMap_map, all, rest]
  cases r.failure? <;> simp [Finding.note?]

theorem failures_findings : (r.findings rule).filterMap Finding.failure? =
    (r.failure?.map (.ruleCrash rule)).toList := by
  have noDiagnostic : ∀ l : List Diagnostic, l.filterMap (Finding.failure? ∘ .diagnostic) = [] :=
    fun _ => List.filterMap_eq_nil_iff.2 fun _ _ => rfl
  have noNote : ∀ l : List String, l.filterMap (Finding.failure? ∘ .note) = [] :=
    fun _ => List.filterMap_eq_nil_iff.2 fun _ _ => rfl
  simp only [Action.Result.findings, List.filterMap_append, List.filterMap_map, noDiagnostic, noNote]
  cases r.failure? <;> rfl

theorem failure_findings : (r.findings rule).findSome? Finding.failure? =
    r.failure?.map (.ruleCrash rule) := by
  rw [← List.head?_filterMap, failures_findings]
  cases r.failure? <;> rfl

end

namespace Run

variable {run : Run} {i : Nat} {w : Worker} {event : Phase × Site}

/-- The slots of subscriptions of one worker that a step of the walk meets; the first subscription
has the given number. -/
def slotsOf {σ : Type} (i first : Nat) (subscriptions : List (Subscription σ))
    (event : Phase × Site) : List Slot :=
  Table.slotsFor (((subscriptions.map Subscription.topic).zipIdx first).map fun entry =>
    (entry.1, ⟨i, entry.2⟩)) (event.2.kind, event.1)

theorem slotsOf_cons {σ : Type} (first : Nat) (s : Subscription σ) (rest : List (Subscription σ)) :
    slotsOf i first (s :: rest) event =
      if s.meets event then ⟨i, first⟩ :: slotsOf i (first + 1) rest event
      else slotsOf i (first + 1) rest event := by
  by_cases met : s.meets event = true
  · have topic : s.topic = (event.2.kind, event.1) := by
      simpa [Subscription.meets, Subscription.topic] using met
    simp [slotsOf, Table.slotsFor, met, topic]
  · have topic : s.topic ≠ (event.2.kind, event.1) := by
      simpa [Subscription.meets, Subscription.topic] using met
    simp [slotsOf, Table.slotsFor, met, topic]

theorem step_of_worker (at_ : run.workers[i]? = some w) (site : Site) (j : Nat) :
    run.step site ⟨i, j⟩ =
      let result := w.step j site
      ⟨run.workers.set i result.worker, result.diagnostics.reverse ++ run.diagnostics,
        result.notes.reverse ++ run.notes,
        run.error.or (result.failure.map fun failure => .ruleCrash w.id failure)⟩ := by
  simp only [Run.step, at_]

theorem set_eq_self {α : Type _} {l : List α} {x : α} (at_ : l[i]? = some x) : l.set i x = l := by
  obtain ⟨bound, rfl⟩ := List.getElem?_eq_some_iff.1 at_
  exact List.set_getElem_self bound

/-- A worker that has failed does nothing any more. -/
theorem foldl_step_failed (at_ : run.workers[i]? = some w) (failed : w.state = none)
    (slots : List Slot) (own : ∀ slot ∈ slots, slot.worker = i) :
    slots.foldl (Run.step event.2) run = run := by
  induction slots with
  | nil => rfl
  | cons slot slots ih =>
    obtain rfl : slot.worker = i := own slot List.mem_cons_self
    have rests : w.step slot.subscription event.2 = w.rest := by
      unfold Worker.step
      rw [failed]
      cases w.visitor.subscriptions[slot.subscription]? <;> rfl
    have same : run.step event.2 slot = run := by
      rw [step_of_worker at_, rests]
      simp [Worker.rest, set_eq_self at_]
    rw [List.foldl_cons, same]
    exact ih fun slot mem => own slot (List.mem_cons_of_mem _ mem)

theorem worker_of_mem_slotsOf {σ : Type} {first : Nat} {subscriptions : List (Subscription σ)} :
    ∀ slot ∈ slotsOf i first subscriptions event, slot.worker = i := by
  intro slot mem
  simp only [slotsOf, Table.slotsFor, List.mem_map, List.mem_filter] at mem
  obtain ⟨entry, ⟨⟨numbered, -, rfl⟩, -⟩, rfl⟩ := mem
  rfl

/-- What follows from a result that is no failure is added behind it. -/
theorem add_findings {σ : Type} (rule : String) (ws workers : List Worker) {r : Action.Result σ}
    {state : σ} (ok : r.ending = .ok state) (next : σ → Action.Result σ) :
    (run.add ws (r.findings rule)).add workers ((next state).findings rule) =
      run.add workers ((r.andThen next).findings rule) := by
  have both : r.andThen next = ⟨r.diagnostics ++ (next state).diagnostics,
      r.notes ++ (next state).notes, (next state).ending⟩ := by
    simp only [Action.Result.andThen, ok]
  simp only [add, diagnostics_findings, notes_findings, failure_findings, both,
    Action.Result.failure?_of_ok ok, Option.map_none, List.reverse_append, List.append_assoc,
    Option.or_none]
  rfl

/-- A step of a worker that is at work. -/
theorem step_at_work {w : Worker} {state : w.visitor.State} {j : Nat}
    {s : Subscription w.visitor.State} (found : w.visitor.subscriptions[j]? = some s)
    (at_ : run.workers[i]? = some { w with state := some state }) (site : Site) :
    run.step site ⟨i, j⟩ =
      let r := (s.handle w.context site state).run w.context
      run.add (run.workers.set i { w with state := r.ending.toOption }) (r.findings w.id) := by
  rw [step_of_worker at_]
  simp only [Worker.step, found, add, diagnostics_findings, notes_findings, failure_findings]
  cases ending : ((s.handle w.context site state).run w.context).ending with
  | error failure =>
    simp only [Action.Result.failure?_eq_some.2 ending]
    rfl
  | ok after =>
    simp only [Action.Result.failure?_of_ok ending]
    rfl

/-- The slots of a worker, at a step that finds it at work, do what those of its subscriptions do
that the step meets. -/
theorem foldl_step_worker {w : Worker} {done rest : List (Subscription w.visitor.State)}
    (all : w.visitor.subscriptions = done ++ rest) {state : w.visitor.State}
    (at_ : run.workers[i]? = some { w with state := some state }) :
    (slotsOf i done.length rest event).foldl (Run.step event.2) run =
      let r := Subscription.serve w.context event rest state
      run.add (run.workers.set i { w with state := r.ending.toOption }) (r.findings w.id) := by
  induction rest generalizing done state run with
  | nil =>
    have same : run.workers.set i { w with state := some state } = run.workers := set_eq_self at_
    simp [slotsOf, Table.slotsFor, Subscription.serve, Action.Result.findings,
      Action.Result.failure?, Except.toOption, same, add_self]
  | cons s rest ih =>
    have later : w.visitor.subscriptions = (done ++ [s]) ++ rest := by simp [all]
    have number : (done ++ [s]).length = done.length + 1 := by simp
    have bound : i < run.workers.length := (List.getElem?_eq_some_iff.1 at_).1
    rw [slotsOf_cons]
    by_cases met : s.meets event = true
    · have found : w.visitor.subscriptions[done.length]? = some s := by simp [all]
      simp only [met, if_true, List.foldl_cons, Subscription.serve]
      rw [step_at_work found at_]
      generalize (s.handle w.context event.2 state).run w.context = r
      cases ending : r.ending with
      | error failure =>
        have failed : (r.andThen (Subscription.serve w.context event rest)) = r := by
          simp only [Action.Result.andThen, ending]
          cases r
          simp_all
        have gone : (run.add (run.workers.set i { w with state := none })
            (r.findings w.id)).workers[i]? = some { w with state := none } :=
          List.getElem?_set_self bound
        rw [failed]
        simp only [ending, Except.toOption]
        exact foldl_step_failed gone rfl _ worker_of_mem_slotsOf
      | ok after =>
        have on : (run.add (run.workers.set i { w with state := some after })
            (r.findings w.id)).workers[i]? = some { w with state := some after } :=
          List.getElem?_set_self bound
        have ends : (r.andThen (Subscription.serve w.context event rest)).ending =
            (Subscription.serve w.context event rest after).ending := by
          simp only [Action.Result.andThen, ending]
        have behind := ih later on
        rw [number] at behind
        simp only [ending, Except.toOption, behind, ends, add_findings _ _ _ ending]
        simp only [add, List.set_set]
    · simp only [met, Subscription.serve]
      rw [← number]
      exact ih later at_

/-- The slots of a worker at a step, in whatever state that finds the worker. -/
theorem foldl_step_attend (at_ : run.workers[i]? = some w) :
    (slotsOf i 0 w.visitor.subscriptions event).foldl (Run.step event.2) run =
      run.add (run.workers.set i (w.attend event).1) (w.attend event).2 := by
  cases w with
  | mk context visitor state =>
    cases state with
    | none =>
      rw [foldl_step_failed at_ rfl _ worker_of_mem_slotsOf]
      simp only [Worker.attend, set_eq_self at_, add_self]
    | some state =>
      let w : Worker := ⟨context, visitor, some state⟩
      have whole : w.visitor.subscriptions = [] ++ w.visitor.subscriptions := rfl
      exact foldl_step_worker whole at_

/-- The slots of workers that a step of the walk meets; the first worker has the given number. -/
def slotsAll (first : Nat) (ws : List Worker) (event : Phase × Site) : List Slot :=
  Table.slotsFor ((ws.zipIdx first).flatMap fun (w, i) =>
    w.visitor.topics.zipIdx.map fun (topic, j) => (topic, ⟨i, j⟩)) (event.2.kind, event.1)

theorem slotsAll_cons (first : Nat) (w : Worker) (ws : List Worker) :
    slotsAll first (w :: ws) event =
      slotsOf first 0 w.visitor.subscriptions event ++ slotsAll (first + 1) ws event := by
  simp only [slotsAll, Table.slotsFor, List.zipIdx_cons, List.flatMap_cons, List.filter_append,
    List.map_append]
  rfl

theorem foldl_step_all {done rest : List Worker} (all : run.workers = done ++ rest) :
    (slotsAll done.length rest event).foldl (Run.step event.2) run =
      run.add (done ++ rest.map fun w => (w.attend event).1)
        (rest.flatMap fun w => (w.attend event).2) := by
  induction rest generalizing done run with
  | nil =>
    rw [List.append_nil] at all
    simp [slotsAll, Table.slotsFor, ← all, add_self]
  | cons w rest ih =>
    have at_ : run.workers[done.length]? = some w := by simp [all]
    have changed : run.workers.set done.length (w.attend event).1 =
        (done ++ [(w.attend event).1]) ++ rest := by
      simp [all]
    have number : (done ++ [(w.attend event).1]).length = done.length + 1 := by simp
    have later : (run.add (done ++ [(w.attend event).1] ++ rest) (w.attend event).2).workers =
        done ++ [(w.attend event).1] ++ rest := rfl
    rw [slotsAll_cons, List.foldl_append, foldl_step_attend at_, changed, ← number, ih later, add_add]
    simp

theorem visitor_attend (event : Phase × Site) (w : Worker) :
    (w.attend event).1.visitor.topics = w.visitor.topics := by
  unfold Worker.attend
  split <;> rfl

theorem slotsAll_congr {ws workers : List Worker}
    (same : ws.map (fun w => w.visitor.topics) = workers.map fun w => w.visitor.topics) :
    slotsAll 0 ws event = slotsAll 0 workers event := by
  have topics (l : List Worker) : slotsAll 0 l event =
      Table.slotsFor (((l.map fun w => w.visitor.topics).zipIdx).flatMap fun (topics, i) =>
        topics.zipIdx.map fun (topic, j) => (topic, ⟨i, j⟩)) (event.2.kind, event.1) := by
    simp only [slotsAll, List.zipIdx_map, List.flatMap_map]
    rfl
  rw [topics, topics, same]

/-- A walk with the slots of the workers that it started with. -/
theorem foldl_visitSlots {α : Type} {setup : Setup} (walk : List (Phase × Site))
    (ws : List (Worker × α)) (current : run.workers = ws.map Prod.fst)
    (same : (ws.map fun w => w.1.visitor.topics) = setup.workers.map fun w => w.visitor.topics) :
    ∃ workers, walk.foldl (visitSlots setup.slots) run =
      run.add workers ((Dispatch.follow walk ws).map Prod.fst) := by
  induction walk generalizing run ws with
  | nil => exact ⟨run.workers, (add_self run).symm⟩
  | cons event walk ih =>
    have slots : Table.slotsFor setup.slots (event.2.kind, event.1) =
        slotsAll 0 run.workers event := by
      rw [current]
      refine (slotsAll_congr ?_).symm
      rw [List.map_map]
      exact same
    have visited : visitSlots setup.slots run event =
        run.add (run.workers.map fun w => (w.attend event).1)
          (run.workers.flatMap fun w => (w.attend event).2) := by
      have whole : run.workers = [] ++ run.workers := rfl
      rw [visitSlots, slots]
      exact foldl_step_all whole
    have after : (visitSlots setup.slots run event).workers =
        (ws.map fun w => ((w.1.attend event).1, w.2)).map Prod.fst := by
      rw [visited, current]
      simp [add, Function.comp_def]
    obtain ⟨workers, behind⟩ := ih (ws.map fun w => ((w.1.attend event).1, w.2)) after
      (by simpa [Function.comp_def, visitor_attend] using same)
    refine ⟨workers, ?_⟩
    rw [List.foldl_cons, behind, visited, add_add, current]
    simp [Dispatch.follow, List.map_flatMap, List.flatMap_map, Function.comp_def]

end Run

namespace Dispatch

variable {settings : Json} {source : Source}

theorem workers_ofRules (rules : List ConfiguredRule) :
    (Setup.ofRules settings source rules).workers =
      rules.filterMap (ConfiguredRule.worker? settings source) := by
  induction rules with
  | nil => rfl
  | cons r rules ih =>
    simp only [Setup.ofRules, List.filterMap_cons, ConfiguredRule.worker?, ← ih]
    cases r.rule.create (r.context settings source) <;> rfl

theorem skipped_ofRules (rules : List ConfiguredRule) :
    (Setup.ofRules settings source rules).skipped =
      rules.filterMap (ConfiguredRule.skip? settings source) := by
  induction rules with
  | nil => rfl
  | cons r rules ih =>
    simp only [Setup.ofRules, List.filterMap_cons, ConfiguredRule.skip?, ← ih]
    cases r.rule.create (r.context settings source) <;> rfl

/-- The run with the table comes to what the findings do that the rules leave one after another. -/
theorem run_eq_ofFindings {α : Type} {rules : List ConfiguredRule}
    (labelled : List (ConfiguredRule × α)) (all : labelled.map Prod.fst = rules) :
    run rules settings source = ofFindings (rules.filterMap (ConfiguredRule.skip? settings source))
      ((findings settings source labelled).map Prod.fst) := by
  subst all
  have workers : (Setup.ofRules settings source (labelled.map Prod.fst)).workers =
      (labelled.filterMap fun r => (r.1.worker? settings source).map fun w => (w, r.2)).map
        Prod.fst := by
    simp [workers_ofRules, List.filterMap_map, List.map_filterMap, Function.comp_def]
  have start : (Run.start (Setup.ofRules settings source (labelled.map Prod.fst)).workers).workers =
      _ := workers
  obtain ⟨ws, walked⟩ := Run.foldl_visitSlots source.tree.walk _ start
    (by rw [workers, List.map_map]; rfl)
  rw [run_eq_runSlots, runSlots]
  simp only [walked, skipped_ofRules]
  simp [ofRun, ofFindings, findings, Run.add, Run.start]

/-- A run with a table finds what the rules find when each step of the walk, in document order, asks
every rule in turn that has not failed yet, and each of these answers with its subscriptions to the
kind and phase of the step, in the order of their declaration. The error is the first failure in this
order, and there is none exactly if no rule has failed. -/
theorem run_in_order (rules : List ConfiguredRule) (settings : Json) (source : Source) :
    let found := findings settings source rules.zipIdx
    run rules settings source = ofFindings (rules.filterMap (ConfiguredRule.skip? settings source))
        (found.map Prod.fst) ∧
      ((run rules settings source).error = none ↔ ∀ e i, (.failure e, i) ∉ found) := by
  intro found
  have same : run rules settings source = ofFindings
      (rules.filterMap (ConfiguredRule.skip? settings source)) (found.map Prod.fst) :=
    run_eq_ofFindings rules.zipIdx (List.zipIdx_map_fst 0 rules)
  refine ⟨same, ?_⟩
  rw [same]
  simp only [ofFindings, List.findSome?_eq_none_iff, List.mem_map]
  constructor
  · intro none e i mem
    cases none (.failure e) ⟨_, mem, rfl⟩
  · rintro none _ ⟨⟨f, i⟩, mem, rfl⟩
    cases f with
    | failure e => exact absurd mem (none e i)
    | diagnostic d => rfl
    | note line => rfl

end Dispatch

end ScriptLint
