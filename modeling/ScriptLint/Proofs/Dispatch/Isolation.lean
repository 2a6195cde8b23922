import ScriptLint.Proofs.Dispatch.InOrder

/-!
# Rules do not disturb one another

Each worker has a state of its own, and what it leaves behind depends on nothing else. So the
findings of some of the rules are the findings of a run of these rules alone, in the same order
(`findings_filter`), whatever the others do; with one rule left out this is `run_isolated`.

What a single rule reports is what its calls report one after another (`follow_at_work`): those that
the walk brings to its subscriptions, up to the first that fails (`Calls.run_failed`).
-/

namespace ScriptLint

/-- The calls of handlers that a walk brings to subscriptions, in order. -/
def Visitor.calls (v : Visitor) (walk : List (Phase × Site)) :
    List (Subscription v.State × Site) :=
  walk.flatMap fun event => (v.subscriptions.filter (·.meets event)).map fun s => (s, event.2)

namespace Calls

variable {σ : Type} {ctx : RuleContext}

/-- Runs calls one after another, until one fails. -/
def run (ctx : RuleContext) : List (Subscription σ × Site) → σ → Action.Result σ
  | [], state => ⟨[], [], .ok state⟩
  | call :: calls, state =>
    ((call.1.handle ctx call.2 state).run ctx).andThen (run ctx calls)

theorem andThen_assoc (r : Action.Result σ) (next last : σ → Action.Result σ) :
    (r.andThen next).andThen last = r.andThen fun state => (next state).andThen last := by
  unfold Action.Result.andThen
  cases r.ending with
  | error failure => rfl
  | ok state =>
    dsimp only
    cases (next state).ending <;> simp

theorem run_append (calls more : List (Subscription σ × Site)) (state : σ) :
    run ctx (calls ++ more) state = (run ctx calls state).andThen (run ctx more) := by
  induction calls generalizing state with
  | nil => simp [run, Action.Result.andThen]
  | cons call calls ih =>
    simp only [List.cons_append, run, andThen_assoc]
    congr 1
    funext after
    exact ih after

/-- The calls that one step of the walk brings. -/
theorem serve_eq_run (event : Phase × Site) (subscriptions : List (Subscription σ)) (state : σ) :
    Subscription.serve ctx event subscriptions state =
      run ctx ((subscriptions.filter (·.meets event)).map fun s => (s, event.2)) state := by
  induction subscriptions generalizing state with
  | nil => rfl
  | cons s rest ih =>
    have later : Subscription.serve ctx event rest =
        run ctx ((rest.filter (·.meets event)).map fun s => (s, event.2)) := funext ih
    by_cases met : s.meets event = true
    · simp [Subscription.serve, met, run, later]
    · simp [Subscription.serve, met, later]

/-- Calls that fail come to what those before the failing one reported, and what that one did. -/
theorem run_failed {calls : List (Subscription σ × Site)} {state : σ} {failure : Failure}
    (fails : (run ctx calls state).ending = .error failure) :
    ∃ done call rest between, calls = done ++ call :: rest ∧
      (run ctx done state).ending = .ok between ∧
      ((call.1.handle ctx call.2 between).run ctx).ending = .error failure ∧
      (run ctx calls state).diagnostics = (run ctx done state).diagnostics ++
        ((call.1.handle ctx call.2 between).run ctx).diagnostics := by
  induction calls generalizing state with
  | nil => cases fails
  | cons call calls ih =>
    cases ending : ((call.1.handle ctx call.2 state).run ctx).ending with
    | error e =>
      have same : run ctx (call :: calls) state =
          { (call.1.handle ctx call.2 state).run ctx with ending := .error e } := by
        simp only [run, Action.Result.andThen, ending]
      rw [same] at fails
      obtain rfl : e = failure := by simpa using fails
      exact ⟨[], call, calls, state, rfl, rfl, ending, by rw [same]; rfl⟩
    | ok after =>
      have same : run ctx (call :: calls) state =
          { run ctx calls after with
            diagnostics := ((call.1.handle ctx call.2 state).run ctx).diagnostics ++
              (run ctx calls after).diagnostics
            notes := ((call.1.handle ctx call.2 state).run ctx).notes ++
              (run ctx calls after).notes } := by
        simp only [run, Action.Result.andThen, ending]
      rw [same] at fails
      obtain ⟨done, failing, rest, between, parts, before, last, reported⟩ := ih fails
      have first : run ctx (call :: done) state =
          { run ctx done after with
            diagnostics := ((call.1.handle ctx call.2 state).run ctx).diagnostics ++
              (run ctx done after).diagnostics
            notes := ((call.1.handle ctx call.2 state).run ctx).notes ++
              (run ctx done after).notes } := by
        simp only [run, Action.Result.andThen, ending]
      refine ⟨call :: done, failing, rest, between, by rw [parts, List.cons_append], ?_, last, ?_⟩
      · rw [first]
        exact before
      · rw [same, first]
        simp [reported]

end Calls

namespace Dispatch

variable {α β : Type} {settings : Json} {source : Source}

theorem follow_filter (keep : α → Bool) (walk : List (Phase × Site)) (ws : List (Worker × α)) :
    (follow walk ws).filter (fun f => keep f.2) = follow walk (ws.filter fun w => keep w.2) := by
  induction walk generalizing ws with
  | nil => rfl
  | cons event walk ih =>
    have here : ∀ ws : List (Worker × α),
        (ws.flatMap fun w => (w.1.attend event).2.map fun f => (f, w.2)).filter
          (fun f => keep f.2) =
        (ws.filter fun w => keep w.2).flatMap
          fun w => (w.1.attend event).2.map fun f => (f, w.2) := by
      intro ws
      induction ws with
      | nil => rfl
      | cons w ws ihw =>
        have all : ∀ found : List Finding, found.filter (fun _ => true) = found := by simp
        cases kept : keep w.2 <;>
          simp [List.filter_map, Function.comp_def, kept, ihw, all]
    simp only [follow, List.filter_append, here, ih, List.filter_map]
    rfl

/-- The findings of some of the rules are those of a run of these rules alone. -/
theorem findings_filter (keep : α → Bool) (rules : List (ConfiguredRule × α)) :
    (findings settings source rules).filter (fun f => keep f.2) =
      findings settings source (rules.filter fun r => keep r.2) := by
  rw [findings, follow_filter, findings]
  congr 1
  induction rules with
  | nil => rfl
  | cons r rules ih =>
    cases kept : keep r.2 <;> cases made : r.1.worker? settings source <;>
      simp [kept, made, ih]

theorem skips_filter (keep : α → Bool) (rules : List (ConfiguredRule × α)) :
    (skips settings source rules).filter (fun s => keep s.2) =
      skips settings source (rules.filter fun r => keep r.2) := by
  unfold skips
  induction rules with
  | nil => rfl
  | cons r rules ih =>
    cases kept : keep r.2 <;> cases made : r.1.skip? settings source <;>
      simp [kept, made, ih]

theorem map_fst_skips (rules : List (ConfiguredRule × α)) :
    (skips settings source rules).map Prod.fst =
      (rules.map Prod.fst).filterMap (ConfiguredRule.skip? settings source) := by
  simp [skips, List.map_filterMap, List.filterMap_map, Function.comp_def]

theorem zipIdx_ne_of_lt {rules : List ConfiguredRule} {first k : Nat} (before : k < first) :
    ∀ entry ∈ rules.zipIdx first, entry.2 ≠ k := by
  intro entry mem
  have := List.le_snd_of_mem_zipIdx mem
  omega

theorem map_fst_others (rules : List ConfiguredRule) (first k : Nat) :
    ((rules.zipIdx first).filter fun r => r.2 ≠ first + k).map Prod.fst = rules.eraseIdx k := by
  induction rules generalizing first k with
  | nil => rfl
  | cons r rules ih =>
    cases k with
    | zero =>
      have later : (rules.zipIdx (first + 1)).filter (fun r => r.2 ≠ first) =
          rules.zipIdx (first + 1) :=
        List.filter_eq_self.2 fun entry mem => by simpa using zipIdx_ne_of_lt (by omega) entry mem
      simpa using congrArg (List.map Prod.fst) later
    | succ k =>
      have later := ih (first + 1) k
      have number : first + 1 + k = first + (k + 1) := by omega
      rw [number] at later
      simpa using later

theorem filter_zipIdx_of_getElem? {rules : List ConfiguredRule} (first : Nat) {k : Nat}
    {r : ConfiguredRule} (at_ : rules[k]? = some r) :
    ((rules.zipIdx first).filter fun r => r.2 = first + k) = [(r, first + k)] := by
  induction rules generalizing first k with
  | nil => cases at_
  | cons head rules ih =>
    cases k with
    | zero =>
      obtain rfl : head = r := by simpa using at_
      have later : (rules.zipIdx (first + 1)).filter (fun r => r.2 = first) = [] :=
        List.filter_eq_nil_iff.2 fun entry mem => by simpa using zipIdx_ne_of_lt (by omega) entry mem
      simpa using later
    | succ k =>
      have later := ih (first + 1) (by simpa using at_)
      have number : first + 1 + k = first + (k + 1) := by omega
      rw [number] at later
      simpa using later

theorem follow_nil (walk : List (Phase × Site)) : follow walk ([] : List (Worker × α)) = [] := by
  induction walk with
  | nil => rfl
  | cons event walk ih => exact ih

theorem follow_failed {w : Worker} (failed : w.state = none) (label : α)
    (walk : List (Phase × Site)) : follow walk [(w, label)] = [] := by
  have rests : ∀ event, w.attend event = (w, []) := by
    intro event
    unfold Worker.attend
    rw [failed]
  induction walk with
  | nil => rfl
  | cons event walk ih => simp [follow, rests, ih]

/-- A worker by itself reports what the calls report that the walk brings to it, and fails if and
only if they do. -/
theorem follow_at_work (ctx : RuleContext) (v : Visitor) (state : v.State) (label : α)
    (walk : List (Phase × Site)) :
    let found := (follow walk [(⟨ctx, v, some state⟩, label)]).map Prod.fst
    let r := Calls.run ctx (v.calls walk) state
    found.filterMap Finding.diagnostic? = r.diagnostics ∧
      found.filterMap Finding.failure? = (r.failure?.map (.ruleCrash ctx.info.id)).toList := by
  induction walk generalizing state with
  | nil => exact ⟨rfl, rfl⟩
  | cons event walk ih =>
    have parts : v.calls (event :: walk) =
        ((v.subscriptions.filter (·.meets event)).map fun s => (s, event.2)) ++ v.calls walk := rfl
    simp only [parts, Calls.run_append, ← Calls.serve_eq_run]
    simp only [follow, Worker.attend, List.flatMap_cons, List.flatMap_nil, List.append_nil,
      List.map_cons, List.map_nil, List.map_append, List.map_map, Function.comp_def, List.map_id',
      List.filterMap_append, diagnostics_findings, failures_findings, Worker.id]
    generalize Subscription.serve ctx event v.subscriptions state = r
    cases ending : r.ending with
    | error failure =>
      have gone : follow walk [(⟨ctx, v, none⟩, label)] = [] := follow_failed rfl label walk
      simp [Action.Result.andThen, Action.Result.failure?, ending, Except.toOption, gone]
    | ok after =>
      obtain ⟨reported, failed⟩ := ih after
      simp [Action.Result.andThen, Action.Result.failure?, ending, Except.toOption, reported, failed]

/-- The findings of one rule among others are those of a walk with its worker alone. -/
theorem findings_of_rule {rules : List ConfiguredRule} {k : Nat} {r : ConfiguredRule}
    (at_ : rules[k]? = some r) :
    (findings settings source rules.zipIdx).filter (fun f => f.2 = k) =
      follow source.tree.walk ((r.worker? settings source).map fun w => (w, k)).toList := by
  have alone : (rules.zipIdx.filter fun r => r.2 = k) = [(r, k)] := by
    simpa using filter_zipIdx_of_getElem? 0 at_
  rw [findings_filter fun i => i = k, alone, findings]
  cases made : r.worker? settings source <;> simp [made]

/-- What is noted of one rule among others that may skip the file. -/
theorem skips_of_rule {rules : List ConfiguredRule} {k : Nat} {r : ConfiguredRule}
    (at_ : rules[k]? = some r) :
    (skips settings source rules.zipIdx).filter (fun s => s.2 = k) =
      ((r.skip? settings source).map fun s => (s, k)).toList := by
  have alone : (rules.zipIdx.filter fun r => r.2 = k) = [(r, k)] := by
    simpa using filter_zipIdx_of_getElem? 0 at_
  rw [skips_filter fun i => i = k, alone, skips]
  cases made : r.skip? settings source <;> simp [made]

/-- Without one of its rules a run keeps all that the other rules leave behind, in the same order,
whatever the rule does in the run. And the rule, unless it skips the file, reports what its calls
report; if it fails, these are the reports of the calls up to the one that fails, and of that one
before it fails. -/
theorem run_isolated (rules : List ConfiguredRule) (settings : Json) (source : Source) (k : Nat) :
    let found := findings settings source rules.zipIdx
    let skipped := skips settings source rules.zipIdx
    run rules settings source = ofFindings (skipped.map Prod.fst) (found.map Prod.fst) ∧
      run (rules.eraseIdx k) settings source =
        ofFindings ((skipped.filter fun s => s.2 ≠ k).map Prod.fst)
          ((found.filter fun f => f.2 ≠ k).map Prod.fst) ∧
      ∀ r v, rules[k]? = some r → r.rule.create (r.context settings source) = .ok v →
        let ctx := r.context settings source
        let own := (found.filter fun f => f.2 = k).map Prod.fst
        let result := Calls.run ctx (v.calls source.tree.walk) v.start
        own.filterMap Finding.diagnostic? = result.diagnostics ∧
          own.filterMap Finding.failure? = (result.failure?.map (.ruleCrash r.id)).toList ∧
          ∀ failure, result.failure? = some failure →
            ∃ done call rest between, v.calls source.tree.walk = done ++ call :: rest ∧
              (Calls.run ctx done v.start).ending = .ok between ∧
              ((call.1.handle ctx call.2 between).run ctx).ending = .error failure ∧
              result.diagnostics = (Calls.run ctx done v.start).diagnostics ++
                ((call.1.handle ctx call.2 between).run ctx).diagnostics := by
  intro found skipped
  refine ⟨?_, ?_, ?_⟩
  case refine_1 =>
    rw [map_fst_skips, List.zipIdx_map_fst]
    exact run_eq_ofFindings rules.zipIdx (List.zipIdx_map_fst 0 rules)
  case refine_2 =>
    have left : ((rules.zipIdx).filter fun r => r.2 ≠ k).map Prod.fst = rules.eraseIdx k := by
      simpa using map_fst_others rules 0 k
    rw [findings_filter fun i => i ≠ k, skips_filter fun i => i ≠ k, map_fst_skips, left]
    exact run_eq_ofFindings _ left
  case refine_3 =>
    intro r v at_ created ctx own result
    have worker : r.worker? settings source = some ⟨ctx, v, some v.start⟩ := by
      simp only [ConfiguredRule.worker?, ctx, created]
    have alone : own = (follow source.tree.walk [(⟨ctx, v, some v.start⟩, k)]).map Prod.fst := by
      simp only [own, found, findings_of_rule at_, worker, Option.map_some, Option.toList_some]
    obtain ⟨reported, failed⟩ := follow_at_work ctx v v.start k source.tree.walk
    rw [alone]
    refine ⟨reported, failed, fun failure fails => ?_⟩
    exact Calls.run_failed (Action.Result.failure?_eq_some.1 fails)

end Dispatch

end ScriptLint
