import Mathlib.Data.List.Nodup
import ScriptLint.Proofs.Config.Merging

/-!
# Merged configurations, path by path

What a configuration says is told by its answers: the fields of `linter`, the entries of rules, and the
settings at paths of keys. For a merged configuration each answer is told by those of the two that were
merged (`merge_exact`). Settings are merged inside objects, so what the second configuration holds at a
path counts unless the first one holds something there, or something on the way that is no object.
-/

namespace ScriptLint

namespace Json

/-- Whether no object in a value has a key twice. What is inside arrays does not count. -/
inductive KeysOnce : Json → Prop
  | leaf {value : Json} (other : ∀ members, value ≠ .obj members) : KeysOnce value
  | object {members : List (String × Json)} (once : (members.map Prod.fst).Nodup)
      (inside : ∀ m ∈ members, KeysOnce m.2) : KeysOnce (.obj members)

section
variable {value : Json} {members : List (String × Json)} {key : String}

theorem get?_obj (members : List (String × Json)) (key : String) :
    (Json.obj members).get? key = members.lookup key := rfl

theorem get?_of_other (other : ∀ members, value ≠ .obj members) (key : String) :
    value.get? key = none := by
  cases value with
  | obj members => exact absurd rfl (other members)
  | _ => rfl

theorem at?_cons (value : Json) (key : String) (path : List String) :
    value.at? (key :: path) = (value.get? key).bind (·.at? path) := by
  rw [Json.at?]

theorem at?_append (value : Json) (front behind : List String) :
    value.at? (front ++ behind) = (value.at? front).bind (·.at? behind) := by
  induction front generalizing value with
  | nil => rw [List.nil_append, Json.at?, Option.bind_some]
  | cons key front ih =>
    rw [List.cons_append, at?_cons, at?_cons, Option.bind_assoc]
    exact Option.bind_congr fun inner _ => ih inner

/-- Where a value holds nothing, some part of the path leads to a value without the next key. -/
theorem exists_of_at?_eq_none {path : List String} (nothing : value.at? path = none) :
    ∃ front key behind inner, path = front ++ key :: behind ∧ value.at? front = some inner ∧
      inner.get? key = none := by
  induction path generalizing value with
  | nil => cases nothing
  | cons key path ih =>
    cases there : value.get? key with
    | none => exact ⟨[], key, path, value, rfl, rfl, there⟩
    | some inner =>
      rw [at?_cons, there] at nothing
      obtain ⟨front, last, behind, found, rfl, leads, lacks⟩ := ih nothing
      exact ⟨key :: front, last, behind, found, rfl, by rw [at?_cons, there]; exact leads, lacks⟩

theorem KeysOnce.lookup (once : (members.map Prod.fst).Nodup) {m : String × Json}
    (mem : m ∈ members) : members.lookup m.1 = some m.2 := by
  induction members with
  | nil => cases mem
  | cons first members ih =>
    obtain ⟨fresh, once⟩ := List.nodup_cons.1 once
    rw [lookup_cons]
    rcases List.mem_cons.1 mem with rfl | mem
    · exact if_pos rfl
    · have other : m.1 ≠ first.1 := fun same => fresh (same ▸ List.mem_map_of_mem mem)
      rw [if_neg other]
      exact ih once mem

end

end Json

namespace Config

/-- The setting at a path of keys. -/
def settingAt? (config : Config) (path : List String) : Option Json :=
  config.settings.bind (·.at? path)

/-- How far a configuration goes along a path: the longest part of it from the front at which there is
a setting, and that setting. -/
structure EndsAt (config : Config) (path front : List String) (value : Json) : Prop where
  initial : front <+: path
  there : config.settingAt? front = some value
  longest : ∀ longer, longer <+: path → front.length < longer.length → config.settingAt? longer = none

/-! ## Merged values -/

section
variable {a b value : Json} {path front behind : List String} {key : String}

/-- What the first value holds at a path is filled up from what the second one holds there. -/
theorem at?_mergeValues (there : a.at? path = some value) :
    (mergeValues a b).at? path = some (fillValue value (b.at? path)) := by
  induction path generalizing a b with
  | nil =>
    cases there
    rfl
  | cons key path ih =>
    rw [Json.at?_cons] at there
    obtain ⟨inner, found, leads⟩ := Option.bind_eq_some_iff.1 there
    cases a with
    | obj as =>
      rw [Json.get?_obj] at found
      by_cases object : ∃ bs, b = .obj bs
      · obtain ⟨bs, rfl⟩ := object
        rw [mergeValues_obj, Json.at?_cons, Json.at?_cons, Json.get?_obj, Json.get?_obj,
          lookup_joinMembers, found]
        cases other : bs.lookup key with
        | none => exact leads
        | some second => exact ih leads
      · have other (bs : List (String × Json)) : b ≠ .obj bs := fun eq => object ⟨bs, eq⟩
        rw [mergeValues_of_second other, Json.at?_cons, Json.at?_cons, Json.get?_of_other other,
          Json.get?_obj, found]
        exact leads
    | _ => cases found

/-- Behind a place where the first value has no such key, the second one counts if the key can be put
there, and else there is nothing. -/
theorem at?_mergeValues_behind (there : a.at? front = some value) (lacks : value.get? key = none) :
    ((∃ members, value = .obj members) →
      (mergeValues a b).at? (front ++ key :: behind) = b.at? (front ++ key :: behind)) ∧
    ((∀ members, value ≠ .obj members) →
      (mergeValues a b).at? (front ++ key :: behind) = none) := by
  rw [Json.at?_append, Json.at?_append, at?_mergeValues there, Option.bind_some, Json.at?_cons]
  constructor
  · rintro ⟨members, rfl⟩
    cases found : b.at? front with
    | none => rw [fillValue, Option.elim_none, lacks]; rfl
    | some second =>
      rw [fillValue, Option.elim_some, Option.bind_some, Json.at?_cons]
      by_cases object : ∃ others, second = .obj others
      · obtain ⟨others, rfl⟩ := object
        rw [Json.get?_obj] at lacks
        rw [mergeValues_obj, Json.get?_obj, Json.get?_obj, lookup_joinMembers, lacks]
        rfl
      · have other (others : List (String × Json)) : second ≠ .obj others :=
          fun eq => object ⟨others, eq⟩
        rw [mergeValues_of_second other, lacks, Json.get?_of_other other]
  · intro other
    cases found : b.at? front with
    | none => rw [fillValue, Option.elim_none, lacks]; rfl
    | some second =>
      rw [fillValue, Option.elim_some, mergeValues_of_first other, lacks]
      rfl

/-- A value without repeated keys that is filled up from itself stays as it is. -/
theorem mergeValues_self (once : a.KeysOnce) : mergeValues a a = a := by
  induction once with
  | leaf other => exact mergeValues_of_first other _
  | @object members once inside ih =>
    have kept : mergeMembers members members = members := by
      rw [mergeMembers_eq_map]
      refine (List.map_congr_left fun m mem => ?_).trans (List.map_id' members)
      rw [Json.KeysOnce.lookup once mem, fillValue, Option.elim_some, ih m mem]
    have added : members.filter (fun m => (members.lookup m.1).isNone) = [] :=
      List.filter_eq_nil_iff.2 fun m mem => by rw [Json.KeysOnce.lookup once mem]; simp
    rw [mergeValues_obj, joinMembers, kept, added, List.append_nil]

end

/-! ## Merged configurations -/

section
variable {a b : Config} {path : List String} {value : Json}

theorem settingAt?_merge (there : a.settingAt? path = some value) :
    (a.merge b).settingAt? path = some (fillValue value (b.settingAt? path)) := by
  obtain ⟨first, given, there⟩ := Option.bind_eq_some_iff.1 there
  rw [settingAt?, settingAt?, Config.merge, given]
  cases b.settings with
  | none => exact there
  | some second => exact at?_mergeValues there

theorem endsAt_of_lacks {first : Json} {front behind : List String} {key : String}
    (given : a.settings = some first) (there : first.at? front = some value)
    (lacks : value.get? key = none) : a.EndsAt (front ++ key :: behind) front value := by
  refine ⟨⟨_, rfl⟩, by rw [settingAt?, given]; exact there, ?_⟩
  rintro longer ⟨rest, parts⟩ less
  obtain ⟨more, rfl⟩ : ∃ more, longer = front ++ key :: more := by
    rcases List.append_eq_append_iff.1 parts with ⟨missing, rfl, -⟩ | ⟨more, rfl, same⟩
    · exact absurd less (by simp)
    · cases more with
      | nil => exact absurd less (by simp)
      | cons last more => exact ⟨more, by rw [(List.cons.inj same).1]⟩
  rw [settingAt?, given, Option.bind_some, Json.at?_append, there, Option.bind_some, Json.at?_cons,
    lacks]
  rfl

/-- Where the first configuration has no setting, it has none at all, or it ends on the way: in an
object, so that the second one counts, or in something else. -/
theorem settingAt?_merge_of_none (nothing : a.settingAt? path = none) :
    (a.settings = none ∧ (a.merge b).settingAt? path = b.settingAt? path) ∨
    ∃ front value, a.EndsAt path front value ∧
      ((∃ members, value = .obj members) → (a.merge b).settingAt? path = b.settingAt? path) ∧
      ((∀ members, value ≠ .obj members) → (a.merge b).settingAt? path = none) := by
  cases given : a.settings with
  | none => exact .inl ⟨rfl, by rw [settingAt?, Config.merge, given, settingAt?]; rfl⟩
  | some first =>
    rw [settingAt?, given] at nothing
    obtain ⟨front, key, behind, value, rfl, there, lacks⟩ := Json.exists_of_at?_eq_none nothing
    refine .inr ⟨front, value, endsAt_of_lacks given there lacks, ?_⟩
    rw [settingAt?, settingAt?, Config.merge, given]
    cases b.settings with
    | none => exact ⟨fun _ => nothing, fun _ => nothing⟩
    | some second => exact at?_mergeValues_behind there lacks

theorem mergePart_bind {α β : Type} {join : α → α → α} {answer : α → Option β}
    (joins : ∀ x y, answer (join x y) = (answer x).or (answer y)) (x y : Option α) :
    (mergePart join x y).bind answer = (x.bind answer).or (y.bind answer) := by
  cases x <;> cases y <;> simp [mergePart, joins]

theorem mergePart_self {α : Type} {join : α → α → α} {x : Option α} (same : ∀ y ∈ x, join y y = y) :
    mergePart join x x = x := by
  cases x with
  | none => rfl
  | some y => exact congrArg some (same y rfl)

theorem merge_self (once : ∀ settings ∈ a.settings, settings.KeysOnce) : a.merge a = a := by
  have linter : mergePart LinterConfig.merge a.linter a.linter = a.linter :=
    mergePart_self fun l _ => by simp [LinterConfig.merge]
  have rules : mergePart RuleTable.merge a.rules a.rules = a.rules :=
    mergePart_self fun table _ => RuleTable.ext_get? fun id => by
      rw [RuleTable.get?_merge, Option.or_self]
  have settings : mergePart mergeValues a.settings a.settings = a.settings :=
    mergePart_self fun value given => mergeValues_self (once value given)
  rw [Config.merge, linter, rules, settings]

end

/-- What a merged configuration says. What belongs to the file is that of the first one; each field of
`linter` and each entry of a rule is that of the first one if it is there, and that of the second one if
not. At a path of keys the settings of the first one are kept, with the keys of both where both hold
objects. Where the first one holds nothing, the second one counts if the first one has no settings, or
ends in an object on the way, and else there is nothing. Merged with itself a configuration stays as it
is. -/
theorem merge_exact (a b : Config) :
    ((a.merge b).schema = a.schema ∧ (a.merge b).root = a.root ∧ (a.merge b).parents = a.parents) ∧
    ((a.merge b).linter.bind (·.enabled) =
        (a.linter.bind (·.enabled)).or (b.linter.bind (·.enabled)) ∧
      (a.merge b).linter.bind (·.fix) = (a.linter.bind (·.fix)).or (b.linter.bind (·.fix)) ∧
      (a.merge b).linter.bind (·.maxPasses) =
        (a.linter.bind (·.maxPasses)).or (b.linter.bind (·.maxPasses))) ∧
    (∀ id, (a.merge b).rules.bind (·.get? id) =
      (a.rules.bind (·.get? id)).or (b.rules.bind (·.get? id))) ∧
    (∀ path,
      (∀ value ∈ a.settingAt? path, (∀ members, value ≠ .obj members) →
        (a.merge b).settingAt? path = some value) ∧
      (∀ members, a.settingAt? path = some (.obj members) →
        (∀ others, b.settingAt? path = some (.obj others) → ∃ both,
          (a.merge b).settingAt? path = some (.obj both) ∧ ∀ key,
            both.lookup key ≠ none ↔ members.lookup key ≠ none ∨ others.lookup key ≠ none) ∧
        ((∀ others, b.settingAt? path ≠ some (.obj others)) →
          (a.merge b).settingAt? path = some (.obj members))) ∧
      (a.settingAt? path = none →
        (a.settings = none ∧ (a.merge b).settingAt? path = b.settingAt? path) ∨
        ∃ front value, a.EndsAt path front value ∧
          ((∃ members, value = .obj members) → (a.merge b).settingAt? path = b.settingAt? path) ∧
          ((∀ members, value ≠ .obj members) → (a.merge b).settingAt? path = none))) ∧
    ((∀ settings ∈ a.settings, settings.KeysOnce) → a.merge a = a) := by
  refine ⟨⟨rfl, rfl, rfl⟩, ⟨mergePart_bind (fun _ _ => rfl) _ _, mergePart_bind (fun _ _ => rfl) _ _,
    mergePart_bind (fun _ _ => rfl) _ _⟩,
    fun id => mergePart_bind (fun x y => RuleTable.get?_merge x y id) _ _, fun path => ⟨?_, ?_, ?_⟩,
    merge_self⟩
  · intro value there other
    rw [settingAt?_merge there]
    cases b.settingAt? path with
    | none => rfl
    | some second => exact congrArg some (mergeValues_of_first other second)
  · intro members there
    rw [settingAt?_merge there]
    constructor
    · intro others found
      refine ⟨joinMembers members others, by rw [found]; exact congrArg some (mergeValues_obj _ _), ?_⟩
      intro key
      rw [lookup_joinMembers]
      cases members.lookup key <;> simp
    · intro other
      cases found : b.settingAt? path with
      | none => rfl
      | some second =>
        rw [found] at other
        exact congrArg some (mergeValues_of_second (fun others eq => other others (eq ▸ rfl)) _)
  · exact settingAt?_merge_of_none

/-- Settings with an object under `k` and a string under `s`. -/
def sampleOwn : Config :=
  holding (.obj [("k", .obj [("x", .bool true)]), ("s", .str "t")])

/-- Settings with objects under both keys. -/
def sampleOther : Config :=
  holding (.obj [("k", .obj [("y", .int 1)]), ("s", .obj [("z", .int 2)])])

theorem keysOnce_sample : ∀ settings ∈ sampleOwn.settings, settings.KeysOnce := by
  rintro settings ⟨⟩
  have inner : Json.KeysOnce (.obj [("x", .bool true)]) := by
    refine .object (by decide) fun m mem => .leaf ?_
    simp_all
  refine .object (by decide) fun m mem => ?_
  rcases List.mem_cons.1 mem with rfl | mem
  · exact inner
  · exact .leaf (by simp_all)

/-- The objects become one, the string stays, and the first configuration does not change itself. -/
theorem merge_exact_sample :
    (∃ both, (sampleOwn.merge sampleOther).settingAt? ["k"] = some (.obj both) ∧
      both.lookup "x" ≠ none ∧ both.lookup "y" ≠ none) ∧
    (sampleOwn.merge sampleOther).settingAt? ["s"] = some (.str "t") ∧
    sampleOwn.merge sampleOwn = sampleOwn := by
  obtain ⟨-, -, -, paths, self⟩ := merge_exact sampleOwn sampleOther
  obtain ⟨both, there, keys⟩ := ((paths ["k"]).2.1 _ rfl).1 _ rfl
  refine ⟨⟨both, there, (keys "x").2 (.inl ?_), (keys "y").2 (.inr ?_)⟩,
    (paths ["s"]).1 _ rfl (by simp), self keysOnce_sample⟩
  · simp
  · simp

end Config

end ScriptLint
