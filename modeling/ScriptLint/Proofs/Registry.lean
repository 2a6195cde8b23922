import Mathlib.Data.List.Basic
import Mathlib.Data.List.Nodup
import ScriptLint.Registry

/-!
# What the entries of a configuration come to

A registry never holds an id twice, so an entry of a configuration is about one rule at most.
`Verdict` lists what an entry can come to: an error, nothing, or a rule in use. `configure` gives each
entry its verdict, whatever the other entries say (`configure_verdicts`).

The rules in use and the errors are read off the registered rules one by one (`configure_eq`). So what
belongs to an id is found by looking at its rule alone, and the rest by looking at the other rules.
-/

namespace ScriptLint

/-- The entry of a rule. -/
def Config.entry? (config : Config) (id : String) : Option RuleSetting :=
  config.rules.bind fun table => table.get? id

/-- The ids that have entries, in ascending order. -/
def Config.entryIds (config : Config) : List String :=
  match config.rules with
  | none => []
  | some table => table.ids

namespace Config

variable {config config' : Config} {id : String}

theorem entryIds_ascend (config : Config) : config.entryIds.Pairwise (· < ·) := by
  unfold entryIds
  cases config.rules with
  | none => exact .nil
  | some table => exact List.pairwise_map.2 table.ascending

theorem nodup_entryIds (config : Config) : config.entryIds.Nodup :=
  List.Pairwise.imp (fun {a b} (less : a < b) (eq : a = b) => String.lt_irrefl b (eq ▸ less))
    config.entryIds_ascend

theorem mem_entryIds_iff : id ∈ config.entryIds ↔ (config.entry? id).isSome := by
  unfold entryIds entry?
  cases config.rules with
  | none => simp
  | some table =>
    show id ∈ table.entries.map Prod.fst ↔ (table.entries.lookup id).isSome
    rw [List.lookup_isSome_iff, List.mem_map]
    exact exists_congr fun entry => and_congr_right fun _ => by rw [beq_iff_eq, eq_comm]

/-- Configurations that agree on all entries but one name the same ids besides that one. -/
theorem entryIds_filter (agree : ∀ other ≠ id, config.entry? other = config'.entry? other) :
    config.entryIds.filter (fun other => other ≠ id) =
      config'.entryIds.filter (fun other => other ≠ id) := by
  refine List.Perm.eq_of_pairwise (fun a b _ _ less greater => absurd greater (String.lt_asymm less))
    (config.entryIds_ascend.filter _) (config'.entryIds_ascend.filter _) ?_
  refine (List.perm_ext_iff_of_nodup (config.nodup_entryIds.filter _)
    (config'.nodup_entryIds.filter _)).2 fun other => ?_
  simp only [List.mem_filter, mem_entryIds_iff, decide_eq_true_eq]
  constructor
  · exact fun ⟨there, ne⟩ => ⟨agree other ne ▸ there, ne⟩
  · exact fun ⟨there, ne⟩ => ⟨(agree other ne).symm ▸ there, ne⟩

end Config

namespace Registry

variable {r : Registry} {rule : Rule} {id : String} {config config' : Config}

/-! ## Registered rules -/

/-- The registry after calls that register rules; a call that is refused leaves it as it is. -/
def afterCalls (rules : List Rule) : Registry :=
  rules.foldl (fun r rule => (r.register rule).toOption.getD r) .empty

theorem find?_eq_none_iff : r.find? id = none ↔ id ∉ r.ids := by
  simp [find?, ids]

theorem id_of_find? (found : r.find? id = some rule) : rule.id = id := by
  simpa using List.find?_some found

theorem ids_of_register {next : Registry} (accepted : r.register rule = .ok next) :
    rule.id ∉ r.ids ∧ next.ids = r.ids ++ [rule.id] := by
  unfold register at accepted
  split at accepted
  case h_1 => cases accepted
  case h_2 none =>
    cases accepted
    refine ⟨fun taken => ?_, by simp [ids]⟩
    have there : r.contains rule.id = true := by
      rw [contains, Option.isSome_iff_ne_none, Ne, find?_eq_none_iff]
      exact not_not_intro taken
    unfold objection? at none
    split at none
    · cases none
    · rw [if_pos there] at none
      cases none

theorem nodup_ids_register (nodup : r.ids.Nodup) (rule : Rule) :
    ((r.register rule).toOption.getD r).ids.Nodup := by
  cases accepted : r.register rule with
  | error e => exact nodup
  | ok next =>
    obtain ⟨fresh, added⟩ := ids_of_register accepted
    show next.ids.Nodup
    rw [added, List.nodup_append]
    refine ⟨nodup, List.nodup_singleton _, ?_⟩
    intro a mem b own eq
    obtain rfl := List.mem_singleton.1 own
    exact fresh (eq ▸ mem)

/-- No call puts an id into a registry for the second time. -/
theorem nodup_ids_afterCalls (rules : List Rule) : (afterCalls rules).ids.Nodup := by
  suffices ∀ r : Registry, r.ids.Nodup →
      (rules.foldl (fun r rule => (r.register rule).toOption.getD r) r).ids.Nodup from
    this .empty .nil
  induction rules with
  | nil => exact fun r nodup => nodup
  | cons rule rules ih => exact fun r nodup => ih _ (nodup_ids_register nodup rule)

theorem filter_of_nodup (nodup : r.ids.Nodup) (id : String) :
    r.rules.filter (fun rule => rule.id = id) = (r.find? id).toList := by
  obtain ⟨rules⟩ := r
  unfold find?
  induction rules with
  | nil => rfl
  | cons rule rules ih =>
    obtain ⟨fresh, nodup⟩ := List.nodup_cons.1 nodup
    by_cases own : rule.id = id
    · have others : rules.filter (fun rule => rule.id = id) = [] := by
        refine List.filter_eq_nil_iff.2 fun other mem same => fresh ?_
        have same : other.id = id := by simpa using same
        exact List.mem_map.2 ⟨other, mem, same.trans own.symm⟩
      simp [own, others]
    · simp [own, ih nodup]

/-! ## What an entry comes to -/

/-- What the entry of an id comes to: the rules it puts to use, and its errors. -/
inductive Verdict (r : Registry) (id : String) (setting : RuleSetting) :
    List ConfiguredRule → List LintError → Prop
  | unknown (absent : r.find? id = none) : Verdict r id setting [] [.unknownRule id]
  | unclear {rule : Rule} {problem : SettingProblem} (found : r.find? id = some rule)
    (fails : setting.resolve = .error problem) :
    Verdict r id setting [] [.invalidOptions id "severity" problem.message]
  | off {rule : Rule} (found : r.find? id = some rule) (resolves : setting.resolve = .ok none) :
    Verdict r id setting [] []
  | refused {rule : Rule} {severity : Severity} {options : List Json} {fault : OptionFault}
    (found : r.find? id = some rule) (resolves : setting.resolve = .ok (some (severity, options)))
    (violates : OptionShape.listFault? rule.info.options options = some fault) :
    Verdict r id setting [] [.invalidOptions id fault.pathText fault.message]
  | on {rule : Rule} {severity : Severity} {options : List Json}
    (found : r.find? id = some rule) (resolves : setting.resolve = .ok (some (severity, options)))
    (conforms : OptionShape.listFault? rule.info.options options = none) :
    Verdict r id setting [⟨rule, severity, options⟩] []

def accepted? : Except LintError ConfiguredRule → Option ConfiguredRule
  | .ok rule => some rule
  | .error _ => none

def refused? : Except LintError ConfiguredRule → Option LintError
  | .ok _ => none
  | .error e => some e

/-- What the entry of a registered rule comes to, if it has one. -/
def outcome? (config : Config) (rule : Rule) : Option (Except LintError ConfiguredRule) :=
  (config.entry? rule.id).bind (applySetting rule)

/-- The rules that are put to use. -/
def inUse (r : Registry) (config : Config) : List ConfiguredRule :=
  r.rules.filterMap fun rule => (outcome? config rule).bind accepted?

/-- The errors of entries of registered rules. -/
def refusals (r : Registry) (config : Config) : List LintError :=
  r.rules.filterMap fun rule => (outcome? config rule).bind refused?

/-- The ids with entries that are not registered. -/
def unknownIds (r : Registry) (config : Config) : List String :=
  config.entryIds.filter fun id => ! r.contains id

theorem foldl_add (outcomes : List (Except LintError ConfiguredRule)) (c : Configured) :
    outcomes.foldl Configured.add c =
      ⟨c.rules ++ outcomes.filterMap accepted?, c.errors ++ outcomes.filterMap refused?⟩ := by
  induction outcomes generalizing c with
  | nil => simp
  | cons outcome outcomes ih =>
    rw [List.foldl_cons, ih]
    cases outcome <;> simp [Configured.add, accepted?, refused?, List.filterMap_cons]

theorem configure_eq (r : Registry) (config : Config) :
    r.configure config =
      ⟨r.inUse config, (r.unknownIds config).map .unknownRule ++ r.refusals config⟩ := by
  unfold configure inUse refusals unknownIds outcome? Config.entry? Config.entryIds
  cases config.rules with
  | none => simp
  | some table =>
    dsimp only
    rw [foldl_add]
    simp [List.filterMap_filterMap]

theorem verdict_of_find? (found : r.find? id = some rule) (setting : RuleSetting) :
    r.Verdict id setting ((applySetting rule setting).bind accepted?).toList
      ((applySetting rule setting).bind refused?).toList := by
  obtain rfl := id_of_find? found
  unfold applySetting
  cases resolves : setting.resolve with
  | error problem => exact .unclear found resolves
  | ok meaning =>
    cases meaning with
    | none => exact .off found resolves
    | some pair =>
      obtain ⟨severity, options⟩ := pair
      dsimp only
      unfold configureRule
      cases fault : OptionShape.listFault? rule.info.options options with
      | none => exact .on found resolves fault
      | some fault' => exact .refused found resolves fault

/-- Whatever an entry of a rule comes to is about that rule. -/
theorem own_of_outcome? {outcome : Except LintError ConfiguredRule}
    (made : outcome? config rule = some outcome) :
    (∀ c, outcome = .ok c → c.rule = rule) ∧
      ∀ e, outcome = .error e → e.ruleId? = some rule.id := by
  obtain ⟨setting, -, made⟩ := Option.bind_eq_some_iff.1 made
  unfold applySetting configureRule at made
  split at made
  · cases made
    exact ⟨nofun, fun e eq => by cases eq; rfl⟩
  · cases made
  · split at made
    · cases made
      exact ⟨nofun, fun e eq => by cases eq; rfl⟩
    · cases made
      exact ⟨fun c eq => by cases eq; rfl, nofun⟩

theorem rule_of_accepted {c : ConfiguredRule}
    (made : (outcome? config rule).bind accepted? = some c) : c.rule = rule := by
  obtain ⟨outcome, made, accepted⟩ := Option.bind_eq_some_iff.1 made
  cases outcome with
  | error e => cases accepted
  | ok c' => exact (own_of_outcome? made).1 c (congrArg _ (Option.some.inj accepted))

theorem ruleId_of_refused {e : LintError}
    (made : (outcome? config rule).bind refused? = some e) : e.ruleId? = some rule.id := by
  obtain ⟨outcome, made, refused⟩ := Option.bind_eq_some_iff.1 made
  cases outcome with
  | ok c => cases refused
  | error e' => exact (own_of_outcome? made).2 e (congrArg _ (Option.some.inj refused))

theorem entry_of_outcome? {outcome : Except LintError ConfiguredRule}
    (made : outcome? config rule = some outcome) : (config.entry? rule.id).isSome := by
  obtain ⟨setting, there, -⟩ := Option.bind_eq_some_iff.1 made
  exact Option.isSome_iff_exists.2 ⟨setting, there⟩

/-! ## What belongs to an id -/

/-- What is read off rules and tells which rule it is about, can be filtered by filtering the rules. -/
theorem filter_filterMap_of_own {β : Type*} {f : Rule → Option β} {p : β → Bool} {q : Rule → Bool}
    (own : ∀ rule b, f rule = some b → p b = q rule) (rules : List Rule) :
    (rules.filterMap f).filter p = (rules.filter q).filterMap f := by
  rw [List.filter_filterMap, List.filterMap_filter]
  congr 1
  funext rule
  cases made : f rule with
  | none => simp
  | some b => simp [Option.filter, own rule b made]

theorem filter_inUse (nodup : r.ids.Nodup) (config : Config) (id : String) :
    (r.inUse config).filter (fun c => c.id = id) =
      (r.find? id).toList.filterMap fun rule => (outcome? config rule).bind accepted? := by
  rw [← filter_of_nodup nodup]
  refine filter_filterMap_of_own (fun rule c made => ?_) r.rules
  rw [ConfiguredRule.id, rule_of_accepted made]

theorem filter_refusals (nodup : r.ids.Nodup) (config : Config) (id : String) :
    (r.refusals config).filter (fun e => e.ruleId? = some id) =
      (r.find? id).toList.filterMap fun rule => (outcome? config rule).bind refused? := by
  rw [← filter_of_nodup nodup]
  refine filter_filterMap_of_own (fun rule e made => ?_) r.rules
  rw [ruleId_of_refused made]
  simp

theorem filter_unknown (there : (config.entry? id).isSome) :
    ((r.unknownIds config).map LintError.unknownRule).filter (fun e => e.ruleId? = some id) =
      if r.contains id then [] else [.unknownRule id] := by
  have alone : config.entryIds.filter (fun other => other = id) = [id] := by
    rw [List.filter_eq, List.count_eq_one_of_mem config.nodup_entryIds (Config.mem_entryIds_iff.2 there)]
    rfl
  have own : (r.unknownIds config).filter (fun other => other = id) =
      if r.contains id then [] else [id] := by
    rw [unknownIds, List.filter_comm, alone]
    cases contained : r.contains id <;> simp [contained]
  rw [List.filter_map]
  simp only [Function.comp_def, LintError.ruleId?, Option.some.injEq]
  rw [own]
  cases r.contains id <;> rfl

/-- An entry has the verdict on it, and nothing else in the outcome belongs to its id. -/
theorem verdict_configure (nodup : r.ids.Nodup) {setting : RuleSetting}
    (there : config.entry? id = some setting) :
    r.Verdict id setting ((r.configure config).rules.filter fun c => c.id = id)
      ((r.configure config).errors.filter fun e => e.ruleId? = some id) := by
  rw [configure_eq, List.filter_append, filter_unknown (there ▸ rfl), filter_inUse nodup,
    filter_refusals nodup, contains]
  cases found : r.find? id with
  | none => exact .unknown found
  | some rule =>
    have outcome : outcome? config rule = applySetting rule setting := by
      rw [outcome?, id_of_find? found, there, Option.bind_some]
    simp only [Option.toList_some, List.filterMap_cons, List.filterMap_nil, outcome,
      Option.isSome_some, if_true, List.nil_append]
    have verdict := verdict_of_find? found setting
    cases made : applySetting rule setting with
    | none => simpa [made] using verdict
    | some out => cases out <;> simpa [made, accepted?, refused?] using verdict

/-! ## What belongs to other ids -/

theorem outcome?_congr (agree : ∀ other ≠ id, config.entry? other = config'.entry? other)
    (other : rule.id ≠ id) : outcome? config rule = outcome? config' rule := by
  rw [outcome?, outcome?, agree _ other]

theorem filterMap_others (id : String) {β : Type*} {f f' : Rule → Option β} {p : β → Bool}
    (own : ∀ rule b, f rule = some b → p b = decide (rule.id ≠ id))
    (own' : ∀ rule b, f' rule = some b → p b = decide (rule.id ≠ id))
    (agree : ∀ rule : Rule, rule.id ≠ id → f rule = f' rule) (rules : List Rule) :
    (rules.filterMap f).filter p = (rules.filterMap f').filter p := by
  rw [filter_filterMap_of_own own, filter_filterMap_of_own own']
  exact List.filterMap_congr fun rule mem => agree rule (by simpa using (List.mem_filter.1 mem).2)

theorem configure_others (agree : ∀ other ≠ id, config.entry? other = config'.entry? other) :
    ((r.configure config).rules.filter fun c => c.id ≠ id) =
        ((r.configure config').rules.filter fun c => c.id ≠ id) ∧
      ((r.configure config).errors.filter fun e => e.ruleId? ≠ some id) =
        ((r.configure config').errors.filter fun e => e.ruleId? ≠ some id) := by
  rw [configure_eq, configure_eq]
  constructor
  case left =>
    refine filterMap_others id ?_ ?_ (fun rule other => by rw [outcome?_congr agree other]) r.rules
    · intro rule c made
      rw [ConfiguredRule.id, rule_of_accepted made]
    · intro rule c made
      rw [ConfiguredRule.id, rule_of_accepted made]
  case right =>
    rw [List.filter_append, List.filter_append]
    congr 1
    · have same : (r.unknownIds config).filter (fun other => other ≠ id) =
          (r.unknownIds config').filter fun other => other ≠ id := by
        rw [unknownIds, List.filter_comm, Config.entryIds_filter agree, List.filter_comm]
        rfl
      rw [List.filter_map, List.filter_map]
      simp only [Function.comp_def, LintError.ruleId?, ne_eq, Option.some.injEq] at same ⊢
      rw [same]
    · refine filterMap_others id ?_ ?_
        (fun rule other => by rw [outcome?_congr agree other]) r.rules
      · intro rule e made
        rw [ruleId_of_refused made]
        simp
      · intro rule e made
        rw [ruleId_of_refused made]
        simp

/-! ## The whole outcome -/

/-- What is read off rules stands in the order of the rules. -/
theorem sublist_of_own {β γ : Type*} {f : Rule → Option β} {key : β → γ} {g : Rule → γ}
    (own : ∀ rule b, f rule = some b → key b = g rule) (rules : List Rule) :
    ((rules.filterMap f).map key).Sublist (rules.map g) := by
  induction rules with
  | nil => exact .slnil
  | cons rule rules ih =>
    cases made : f rule with
    | none =>
      rw [List.filterMap_cons_none made]
      exact ih.cons _
    | some b =>
      rw [List.filterMap_cons_some made, List.map_cons, List.map_cons, own rule b made]
      exact ih.cons_cons _

/-- How the outcome of a configuration is made up of the verdicts on its entries. -/
structure Partitions (r : Registry) (config : Config) : Prop where
  verdict : ∀ id setting, config.entry? id = some setting →
    r.Verdict id setting ((r.configure config).rules.filter fun c => c.id = id)
      ((r.configure config).errors.filter fun e => e.ruleId? = some id)
  /-- Rules and errors come from entries only. -/
  rules_entered : ∀ c ∈ (r.configure config).rules, (config.entry? c.id).isSome
  errors_entered : ∀ e ∈ (r.configure config).errors,
    ∃ id, e.ruleId? = some id ∧ (config.entry? id).isSome
  /-- The rules in use are registered, and stand in the order of their registration. -/
  registered : ((r.configure config).rules.map ConfiguredRule.rule).Sublist r.rules
  once : ((r.configure config).rules.map ConfiguredRule.id).Nodup
  /-- Unknown ids come first, in ascending order, and the others in the order of registration. -/
  errors_ordered : ∃ (unknown : List String) (others : List LintError),
    (r.configure config).errors = unknown.map LintError.unknownRule ++ others ∧
      unknown.Pairwise (· < ·) ∧ (∀ id ∈ unknown, id ∉ r.ids) ∧
      (others.map LintError.ruleId?).Sublist (r.ids.map some)
  /-- An entry that is changed, added or left out has no effect on what belongs to other ids. -/
  isolated : ∀ id config', (∀ other ≠ id, config.entry? other = config'.entry? other) →
    ((r.configure config).rules.filter fun c => c.id ≠ id) =
        ((r.configure config').rules.filter fun c => c.id ≠ id) ∧
      ((r.configure config).errors.filter fun e => e.ruleId? ≠ some id) =
        ((r.configure config').errors.filter fun e => e.ruleId? ≠ some id)

theorem ids_inUse (r : Registry) (config : Config) :
    ((r.inUse config).map ConfiguredRule.id).Sublist r.ids :=
  sublist_of_own (fun rule c made => by rw [ConfiguredRule.id, rule_of_accepted made]) r.rules

theorem rules_inUse (r : Registry) (config : Config) :
    ((r.inUse config).map ConfiguredRule.rule).Sublist r.rules := by
  have sub : ((r.inUse config).map ConfiguredRule.rule).Sublist (r.rules.map id) :=
    sublist_of_own (fun rule c made => rule_of_accepted made) r.rules
  rwa [List.map_id] at sub

theorem ids_refusals (r : Registry) (config : Config) :
    ((r.refusals config).map LintError.ruleId?).Sublist (r.ids.map some) := by
  have sub : ((r.refusals config).map LintError.ruleId?).Sublist
      (r.rules.map fun rule => some rule.id) :=
    sublist_of_own (fun rule e made => ruleId_of_refused made) r.rules
  simpa [ids, Function.comp_def] using sub

theorem partitions_of_nodup (nodup : r.ids.Nodup) (config : Config) : r.Partitions config := by
  constructor
  case verdict => exact fun id setting there => verdict_configure nodup there
  case rules_entered =>
    rw [configure_eq]
    intro c mem
    obtain ⟨rule, -, made⟩ := List.mem_filterMap.1 mem
    obtain ⟨outcome, out, -⟩ := Option.bind_eq_some_iff.1 made
    rw [ConfiguredRule.id, rule_of_accepted made]
    exact entry_of_outcome? out
  case errors_entered =>
    rw [configure_eq]
    intro e mem
    rcases List.mem_append.1 mem with unknown | refused
    · obtain ⟨id, own, rfl⟩ := List.mem_map.1 unknown
      exact ⟨id, rfl, Config.mem_entryIds_iff.1 (List.mem_filter.1 own).1⟩
    · obtain ⟨rule, -, made⟩ := List.mem_filterMap.1 refused
      obtain ⟨outcome, out, -⟩ := Option.bind_eq_some_iff.1 made
      exact ⟨rule.id, ruleId_of_refused made, entry_of_outcome? out⟩
  case registered =>
    rw [configure_eq]
    exact rules_inUse r config
  case once =>
    rw [configure_eq]
    exact nodup.sublist (ids_inUse r config)
  case errors_ordered =>
    rw [configure_eq]
    refine ⟨r.unknownIds config, r.refusals config, rfl, config.entryIds_ascend.filter _, ?_,
      ids_refusals r config⟩
    intro id mem
    have absent := (List.mem_filter.1 mem).2
    rw [contains, Bool.not_eq_true', Option.isSome_eq_false_iff, Option.isNone_iff_eq_none] at absent
    exact find?_eq_none_iff.1 absent
  case isolated => exact fun id config' agree => configure_others agree

/-- Whatever calls have registered rules, every entry of a configuration has exactly one outcome: an
error if its id is unknown, its severity unclear or its options against the shapes of the rule, nothing
if the rule is off, and else the rule with that severity and these options. Rules come in the order of
their registration, and errors of unknown ids before the others. No entry disturbs another one. -/
theorem configure_verdicts (calls : List Rule) (config : Config) :
    (afterCalls calls).Partitions config :=
  partitions_of_nodup (nodup_ids_afterCalls calls) config

end Registry

end ScriptLint
