import Mathlib.Data.List.Basic
import ScriptLint.Proofs.Config.Discovery

/-!
# Merging three configurations

Configurations that are found for a folder are merged from the nearest one on, and configurations that
extend one another from the last one back. For the parts of `linter` and for rules it makes no
difference. For settings it makes one at a path of keys where the first and the last configuration hold
objects and the one between them holds something else: merged from the front, the last object still
fills up the first one, and merged from the back it gets lost (`mergeValues_assoc_iff`).
-/

namespace ScriptLint

theorem lookup_cons {β : Type} (key : String) (e : String × β) (entries : List (String × β)) :
    (e :: entries).lookup key = if key = e.1 then some e.2 else entries.lookup key := by
  obtain ⟨first, there⟩ := e
  by_cases same : key = first
  · simp [same]
  · simp [List.lookup_cons, beq_false_of_ne same, same]

/-! ## Rules -/

namespace RuleTable

variable {id other : String} {setting : RuleSetting} {entries entries' : List (String × RuleSetting)}
  {a b c : RuleTable}

theorem lookup_of_lt (less : ∀ e ∈ entries, id < e.1) : entries.lookup id = none := by
  refine List.lookup_eq_none_iff.2 fun e mem => ?_
  simpa using String.ne_of_lt (less e mem)

theorem lookup_of_lt_first {e : String × RuleSetting} (less : id < e.1)
    (ascending : (e :: entries).Pairwise fun a b => a.1 < b.1) : (e :: entries).lookup id = none :=
  lookup_of_lt (List.forall_mem_cons.2
    ⟨less, fun x mem => String.lt_trans less ((List.pairwise_cons.1 ascending).1 x mem)⟩)

theorem lookup_insertInto (ascending : entries.Pairwise fun a b => a.1 < b.1) :
    (insertInto (fun there _ => there) id setting entries).lookup other =
      (entries.lookup other).or (if other = id then some setting else none) := by
  fun_induction insertInto (fun there _ => there) id setting entries with
  | case1 => simp [lookup_cons]
  | case2 first there rest less =>
    by_cases same : other = id
    · subst same
      simp [lookup_of_lt_first less ascending]
    · simp [lookup_cons (e := (id, setting)), same]
  | case3 there rest _ => by_cases same : other = id <;> simp [lookup_cons, same]
  | case4 first there rest _ _ ih =>
    rw [lookup_cons, lookup_cons, ih (List.pairwise_cons.1 ascending).2]
    split <;> rfl

theorem get?_fill (table : RuleTable) (id : String) (setting : RuleSetting) (other : String) :
    (table.fill id setting).get? other =
      (table.get? other).or (if other = id then some setting else none) :=
  lookup_insertInto table.ascending

/-- The entry of a rule is that of the first table, and that of the second one if there is none. -/
theorem get?_merge (a b : RuleTable) (id : String) :
    (a.merge b).get? id = (a.get? id).or (b.get? id) := by
  obtain ⟨entries, ascending⟩ := b
  show (entries.foldl (fun table e => table.fill e.1 e.2) a).get? id =
    (a.get? id).or (entries.lookup id)
  clear ascending
  induction entries generalizing a with
  | nil => simp
  | cons e entries ih =>
    rw [List.foldl_cons, ih, get?_fill, Option.or_assoc]
    by_cases same : id = e.1 <;> simp [lookup_cons, same]

/-- Entries in ascending order are told by what is looked up in them. -/
theorem entries_eq (ascending : entries.Pairwise fun a b => a.1 < b.1)
    (ascending' : entries'.Pairwise fun a b => a.1 < b.1)
    (same : ∀ id, entries.lookup id = entries'.lookup id) : entries = entries' := by
  induction entries generalizing entries' with
  | nil =>
    cases entries' with
    | nil => rfl
    | cons e entries' => simpa [lookup_cons] using same e.1
  | cons e entries ih =>
    cases entries' with
    | nil => simpa [lookup_cons] using same e.1
    | cons e' entries' =>
      obtain ⟨first, rest⟩ := List.pairwise_cons.1 ascending
      obtain ⟨first', rest'⟩ := List.pairwise_cons.1 ascending'
      have notLess : ¬ e.1 < e'.1 := fun less => by
        simpa [lookup_cons, lookup_of_lt_first less ascending'] using same e.1
      have notMore : ¬ e'.1 < e.1 := fun more => by
        simpa [lookup_cons, lookup_of_lt_first more ascending] using same e'.1
      have key : e.1 = e'.1 := String.le_antisymm notMore notLess
      have setting : e.2 = e'.2 := by simpa [lookup_cons, key] using same e.1
      obtain rfl : e = e' := Prod.ext key setting
      have behind (id : String) : entries.lookup id = entries'.lookup id := by
        by_cases there : id = e.1
        · rw [there, lookup_of_lt first, lookup_of_lt first']
        · simpa [lookup_cons, there] using same id
      rw [ih rest rest' behind]

theorem ext_get? (same : ∀ id, a.get? id = b.get? id) : a = b := by
  obtain ⟨entries, ascending⟩ := a
  obtain ⟨entries', ascending'⟩ := b
  cases entries_eq ascending ascending' same
  rfl

theorem merge_merge (a b c : RuleTable) : (a.merge b).merge c = a.merge (b.merge c) :=
  ext_get? fun id => by simp only [get?_merge, Option.or_assoc]

end RuleTable

theorem LinterConfig.merge_merge (a b c : LinterConfig) :
    (a.merge b).merge c = a.merge (b.merge c) := by
  simp [LinterConfig.merge, Option.or_assoc]

namespace Config

/-! ## Settings -/

/-- A value filled up from another one, if there is one. -/
def fillValue (value : Json) (other : Option Json) : Json := other.elim value (mergeValues value)

/-- The members of two objects as those of one. -/
def joinMembers (as bs : List (String × Json)) : List (String × Json) :=
  mergeMembers as bs ++ bs.filter fun m => (as.lookup m.1).isNone

/-- Whether a value keeps a last one away from a first one: at some path of keys the first and the last
one are objects, the last one has something to add to the first one, and what is between them is there
and is no object. -/
inductive Shields : (first between last : Json) → Prop
  | here {as : List (String × Json)} {b c : Json} (other : ∀ bs, b ≠ .obj bs)
      (adds : mergeValues (.obj as) c ≠ .obj as) : Shields (.obj as) b c
  | inside {as bs cs : List (String × Json)} {key : String} {a b c : Json} (first : (key, a) ∈ as)
      (between : bs.lookup key = some b) (last : cs.lookup key = some c) (shields : Shields a b c) :
      Shields (.obj as) (.obj bs) (.obj cs)

section
variable {as bs cs : List (String × Json)} {a b c : Json} {key : String}

theorem mergeValues_obj (as bs : List (String × Json)) :
    mergeValues (.obj as) (.obj bs) = .obj (joinMembers as bs) := by
  rw [mergeValues, joinMembers]

theorem mergeValues_of_first (other : ∀ as, a ≠ .obj as) (b : Json) : mergeValues a b = a := by
  cases a with
  | obj as => exact absurd rfl (other as)
  | _ => rw [mergeValues]; simp

theorem mergeValues_of_second (other : ∀ bs, b ≠ .obj bs) (a : Json) : mergeValues a b = a := by
  cases b with
  | obj bs => exact absurd rfl (other bs)
  | _ => rw [mergeValues]; simp

theorem mergeMembers_eq_map (as bs : List (String × Json)) :
    mergeMembers as bs = as.map fun m => (m.1, fillValue m.2 (bs.lookup m.1)) := by
  induction as with
  | nil => rw [mergeMembers]; rfl
  | cons m as ih =>
    rw [mergeMembers, ih, List.map_cons, fillValue]
    cases bs.lookup m.1 <;> rfl

theorem lookup_mergeMembers (as bs : List (String × Json)) (key : String) :
    (mergeMembers as bs).lookup key = (as.lookup key).map (fillValue · (bs.lookup key)) := by
  rw [mergeMembers_eq_map]
  induction as with
  | nil => rfl
  | cons m as ih =>
    rw [List.map_cons, lookup_cons, lookup_cons, ih]
    split
    · rename_i same
      simp [same]
    · rfl

theorem lookup_absent (as bs : List (String × Json)) (key : String) :
    (bs.filter fun m => (as.lookup m.1).isNone).lookup key =
      if (as.lookup key).isNone then bs.lookup key else none := by
  induction bs with
  | nil => simp
  | cons m bs ih =>
    by_cases same : key = m.1
    · subst same
      cases there : as.lookup m.1 <;> simp [there, lookup_cons, ih]
    · cases there : as.lookup m.1 <;> simp [there, lookup_cons, ih, same]

/-- A member of the first object is filled up, and what it lacks is taken from the second one. -/
theorem lookup_joinMembers (as bs : List (String × Json)) (key : String) :
    (joinMembers as bs).lookup key =
      ((as.lookup key).map (fillValue · (bs.lookup key))).or (bs.lookup key) := by
  rw [joinMembers, List.lookup_append, lookup_mergeMembers, lookup_absent]
  cases as.lookup key <;> simp

/-- What an object lacks of two others is the same whether these are joined first or not. -/
theorem absent_joinMembers (as bs cs : List (String × Json)) :
    (joinMembers bs cs).filter (fun m => (as.lookup m.1).isNone) =
      mergeMembers (bs.filter fun m => (as.lookup m.1).isNone) cs ++
        cs.filter fun m => ((joinMembers as bs).lookup m.1).isNone := by
  have kept : (mergeMembers bs cs).filter (fun m => (as.lookup m.1).isNone) =
      mergeMembers (bs.filter fun m => (as.lookup m.1).isNone) cs := by
    simp only [mergeMembers_eq_map, List.filter_map]
    rfl
  rw [joinMembers, List.filter_append, kept, List.filter_filter]
  congr 2
  funext m
  rw [lookup_joinMembers]
  cases as.lookup m.1 <;> cases bs.lookup m.1 <;> rfl

/-- Joining three objects is associative if it is at each member of the first one. -/
theorem joinMembers_assoc_iff : joinMembers (joinMembers as bs) cs = joinMembers as (joinMembers bs cs) ↔
    ∀ m ∈ as, ∀ b c, bs.lookup m.1 = some b → cs.lookup m.1 = some c →
      mergeValues (mergeValues m.2 b) c = mergeValues m.2 (mergeValues b c) := by
  have front : joinMembers (joinMembers as bs) cs = mergeMembers (mergeMembers as bs) cs ++
      (joinMembers bs cs).filter fun m => (as.lookup m.1).isNone := by
    rw [absent_joinMembers, ← List.append_assoc]
    conv_lhs => rw [joinMembers]
    congr 1
    rw [joinMembers, mergeMembers_eq_map, List.map_append, ← mergeMembers_eq_map,
      ← mergeMembers_eq_map]
  rw [front, joinMembers.eq_1 as, List.append_left_inj, mergeMembers_eq_map, mergeMembers_eq_map,
    mergeMembers_eq_map, List.map_map, List.map_inj_left]
  refine forall_congr' fun m => imp_congr_right fun _ => ?_
  simp only [Function.comp_apply, lookup_joinMembers, Prod.mk.injEq, true_and]
  cases bs.lookup m.1 <;> cases cs.lookup m.1 <;> simp [fillValue]

theorem Shields.exists_obj (shields : Shields a b c) : ∃ as cs, a = .obj as ∧ c = .obj cs := by
  cases shields with
  | @here as b c other adds =>
    cases c with
    | obj cs => exact ⟨as, cs, rfl, rfl⟩
    | _ => exact absurd (mergeValues_of_second (by simp) _) adds
  | inside => exact ⟨_, _, rfl, rfl⟩

theorem sizeOf_lt_of_mem {m : String × Json} (mem : m ∈ as) : sizeOf m.2 < sizeOf (Json.obj as) := by
  have := List.sizeOf_lt_of_mem mem
  obtain ⟨key, value⟩ := m
  simp only [Prod.mk.sizeOf_spec, Json.obj.sizeOf_spec] at *
  omega

end

/-- Merging three values is associative unless the one between keeps the last one away. -/
theorem mergeValues_assoc_iff (a b c : Json) :
    mergeValues (mergeValues a b) c = mergeValues a (mergeValues b c) ↔ ¬ Shields a b c := by
  -- only between two objects can something be kept away; there the members are smaller values
  by_cases ends : ∃ as cs, a = .obj as ∧ c = .obj cs
  · obtain ⟨as, cs, rfl, rfl⟩ := ends
    by_cases object : ∃ bs, b = .obj bs
    · obtain ⟨bs, rfl⟩ := object
      simp only [mergeValues_obj, Json.obj.injEq, joinMembers_assoc_iff]
      constructor
      · intro assoc shields
        cases shields with
        | here other => exact other bs rfl
        | @inside _ _ _ key a b c first between last shields =>
          have smaller := sizeOf_lt_of_mem first
          exact (mergeValues_assoc_iff a b c).1 (assoc _ first _ _ between last) shields
      · intro open_ m mem b c between last
        have smaller := sizeOf_lt_of_mem mem
        exact (mergeValues_assoc_iff m.2 b c).2 fun shields =>
          open_ (.inside mem between last shields)
    · have other (bs : List (String × Json)) : b ≠ .obj bs := fun eq => object ⟨bs, eq⟩
      rw [mergeValues_of_second other, mergeValues_of_first other, mergeValues_of_second other]
      constructor
      · intro same shields
        cases shields with
        | here _ adds => exact adds same
        | inside => exact object ⟨_, rfl⟩
      · exact fun open_ => not_not.1 fun adds => open_ (.here other adds)
  · refine iff_of_true ?_ fun shields => ends shields.exists_obj
    by_cases object : ∃ as, a = .obj as
    · have other (cs : List (String × Json)) : c ≠ .obj cs := by
        obtain ⟨as, rfl⟩ := object
        exact fun eq => ends ⟨as, cs, rfl, eq⟩
      rw [mergeValues_of_second other, mergeValues_of_second other]
    · have other (as : List (String × Json)) : a ≠ .obj as := fun eq => object ⟨as, eq⟩
      rw [mergeValues_of_first other, mergeValues_of_first other, mergeValues_of_first other]
termination_by sizeOf a

/-! ## Configurations -/

section
variable {a b c : Config} {fs : FileSystem} {path : FilePath} {configs : List Config}
  {behind : List Names}

theorem mergePart_assoc_iff {α : Type} (join : α → α → α) (x y z : Option α) :
    mergePart join (mergePart join x y) z = mergePart join x (mergePart join y z) ↔
      ∀ a b c, x = some a → y = some b → z = some c → join (join a b) c = join a (join b c) := by
  cases x <;> cases y <;> cases z <;> simp [mergePart]

/-- Whether the settings of a configuration keep those of a last one away from those of a first one. -/
def ShieldsSettings (a b c : Config) : Prop :=
  ∃ x y z, a.settings = some x ∧ b.settings = some y ∧ c.settings = some z ∧ Shields x y z

theorem linter_merge_merge (a b c : Config) :
    ((a.merge b).merge c).linter = (a.merge (b.merge c)).linter :=
  (mergePart_assoc_iff _ _ _ _).2 fun x y z _ _ _ => LinterConfig.merge_merge x y z

theorem rules_merge_merge (a b c : Config) :
    ((a.merge b).merge c).rules = (a.merge (b.merge c)).rules :=
  (mergePart_assoc_iff _ _ _ _).2 fun x y z _ _ _ => RuleTable.merge_merge x y z

theorem settings_merge_merge_iff (a b c : Config) :
    ((a.merge b).merge c).settings = (a.merge (b.merge c)).settings ↔ ¬ ShieldsSettings a b c := by
  refine (mergePart_assoc_iff mergeValues a.settings b.settings c.settings).trans ?_
  simp only [mergeValues_assoc_iff, ShieldsSettings, not_exists, not_and]

/-- The parts of two configurations that are merged are the same. -/
structure Agrees (a b : Config) : Prop where
  linter : a.linter = b.linter
  rules : a.rules = b.rules
  settings : a.settings = b.settings

theorem Agrees.merge {a' b' : Config} (first : a'.Agrees a) (second : b'.Agrees b) :
    (a'.merge b').Agrees (a.merge b) := by
  constructor
  · simp only [Config.merge, first.linter, second.linter]
  · simp only [Config.merge, first.rules, second.rules]
  · simp only [Config.merge, first.settings, second.settings]

/-- Different files with these configurations, each of which extends the next one alone, and the last
one none. -/
inductive Linked [ConfigReader] (fs : FileSystem) :
    (behind : List Names) → FilePath → List Config → Prop
  | last {behind : List Names} {path : FilePath} {names : Names} {own : Config}
    (leads : fs.canonical path = .ok names) (fresh : names ∉ behind) (loads : load fs path = .ok own)
    (lists : Lists path own []) : Linked fs behind path [own]
  | next {behind : List Names} {path parent : FilePath} {names : Names} {own config : Config}
    {configs : List Config} (leads : fs.canonical path = .ok names) (fresh : names ∉ behind)
    (loads : load fs path = .ok own) (lists : Lists path own [parent])
    (linked : Linked fs (names :: behind) parent (config :: configs)) :
    Linked fs behind path (own :: config :: configs)

/-- Configurations merged from the last one back. -/
def mergeBack : List Config → Config
  | [] => .empty
  | [config] => config
  | config :: next :: configs => config.merge (mergeBack (next :: configs))

section
variable [ConfigReader]

theorem Linked.resolves (linked : Linked fs behind path configs) :
    ∃ steps, resolveWithin fs steps behind path = .ok (mergeBack configs) := by
  induction linked with
  | last leads fresh loads lists =>
    exact ⟨1, resolveWithin_of_made leads fresh ⟨loads, lists, .nil, rfl⟩⟩
  | @next behind path parent names own config configs leads fresh loads lists linked ih =>
    obtain ⟨steps, resolved⟩ := ih
    have there := (holds_of_resolveWithin resolved).1
    exact ⟨steps + 1, resolveWithin_of_made leads fresh
      ⟨loads, lists, .cons ⟨there, resolved⟩ .nil, rfl⟩⟩

theorem Linked.resolve (linked : Linked fs behind path configs) :
    resolve fs path = .ok (mergeBack configs) := by
  obtain ⟨steps, resolved⟩ := linked.resolves
  exact resolve_of_resolveWithin resolved

/-- Configurations that are found for a folder are merged from the front. -/
theorem find_of_chain {start : FilePath} {files : List FilePath} (made : chain fs start = .ok files)
    (found : files ≠ [])
    (all : List.Forall₂ (fun path config => Config.resolve fs path = .ok config) files configs) :
    find fs none start = .ok { configs.foldl Config.merge .empty with root := some true } :=
  discover_eq_ok_iff.2 ⟨files, configs, made, found, all, rfl⟩

end

end

/-- Merging three configurations from the front and from the back gives the same parts of `linter` and
the same rules, and the same settings unless those of the second one keep those of the last one away
from those of the first one. So three configurations that are found for a folder, and the same three in
files that extend one another, come to the same. -/
theorem merge_front_eq_back_iff [ConfigReader] (a b c : Config) :
    let front := (a.merge b).merge c
    let back := a.merge (b.merge c)
    front.linter = back.linter ∧ front.rules = back.rules ∧
      (front.settings = back.settings ↔ ¬ ShieldsSettings a b c) ∧
      ∀ fs start files, chain fs start = .ok files →
        List.Forall₂ (fun path config => resolve fs path = .ok config) files [a, b, c] →
        ∀ fs' path a' b' c', Linked fs' [] path [a', b', c'] →
          a'.Agrees a → b'.Agrees b → c'.Agrees c →
          ∃ stacked linked, find fs none start = .ok stacked ∧ resolve fs' path = .ok linked ∧
            stacked.linter = linked.linter ∧ stacked.rules = linked.rules ∧
            (stacked.settings = linked.settings ↔ ¬ ShieldsSettings a b c) := by
  refine ⟨linter_merge_merge a b c, rules_merge_merge a b c, settings_merge_merge_iff a b c, ?_⟩
  intro fs start files made all fs' path a' b' c' linked first second third
  have found : files ≠ [] := by
    rintro rfl
    cases all
  have same : (a'.merge (b'.merge c')).Agrees (a.merge (b.merge c)) := first.merge (second.merge third)
  refine ⟨_, _, find_of_chain made found all, linked.resolve, ?_⟩
  simp only [mergeBack, same.linter, same.rules, same.settings]
  exact ⟨linter_merge_merge a b c, rules_merge_merge a b c, settings_merge_merge_iff a b c⟩

/-- A configuration that only has settings. -/
def holding (settings : Json) : Config := { Config.empty with settings := some settings }

/-- Settings with an empty object, with something else in its place, and with a full object there. -/
def sampleFirst : Config := holding (.obj [("k", .obj [])])

def sampleBetween : Config := holding (.obj [("k", .bool true)])

def sampleLast : Config := holding (.obj [("k", .obj [("x", .bool true)])])

theorem shields_sample : ShieldsSettings sampleFirst sampleBetween sampleLast := by
  refine ⟨_, _, _, rfl, rfl, rfl, .inside (List.mem_singleton.2 rfl) rfl rfl (.here (by simp) ?_)⟩
  simp [mergeValues_obj, joinMembers, mergeMembers]

/-- From the front the last object fills up the first one, and from the back it does not get there. -/
theorem merge_shielded :
    ((sampleFirst.merge sampleBetween).merge sampleLast).settings = sampleLast.settings ∧
      (sampleFirst.merge (sampleBetween.merge sampleLast)).settings = sampleFirst.settings ∧
      sampleFirst.settings ≠ sampleLast.settings := by
  refine ⟨?_, ?_, ?_⟩
  · simp [sampleFirst, sampleBetween, sampleLast, holding, merge, mergePart, mergeMembers, mergeValues]
  · simp [sampleFirst, sampleBetween, sampleLast, holding, merge, mergePart, mergeMembers, mergeValues]
  · simp [sampleFirst, sampleLast, holding]

/-- The three configurations in folders that lie in one another. -/
def sampleFolders : FileSystem :=
  ⟨[([['p'], ['q'], ".lintelrc.json".toList],
      ⟨some ['{', '"', 's', 'e', 't', 't', 'i', 'n', 'g', 's', '"', ':', '{', '"', 'k', '"', ':', '{',
        '}', '}', '}']⟩),
    ([['p'], ".lintelrc.json".toList],
      ⟨some ['{', '"', 's', 'e', 't', 't', 'i', 'n', 'g', 's', '"', ':', '{', '"', 'k', '"', ':', 't',
        'r', 'u', 'e', '}', '}']⟩),
    ([".lintelrc.json".toList],
      ⟨some ['{', '"', 's', 'e', 't', 't', 'i', 'n', 'g', 's', '"', ':', '{', '"', 'k', '"', ':', '{',
        '"', 'x', '"', ':', 't', 'r', 'u', 'e', '}', '}', '}']⟩)], []⟩

/-- The three configurations in files that extend one another. -/
def sampleFiles : FileSystem :=
  ⟨[([['a']],
      ⟨some ['{', '"', 'e', 'x', 't', 'e', 'n', 'd', 's', '"', ':', '[', '"', 'b', '"', ']', ',', '"',
        's', 'e', 't', 't', 'i', 'n', 'g', 's', '"', ':', '{', '"', 'k', '"', ':', '{', '}', '}',
        '}']⟩),
    ([['b']],
      ⟨some ['{', '"', 'e', 'x', 't', 'e', 'n', 'd', 's', '"', ':', '[', '"', 'c', '"', ']', ',', '"',
        's', 'e', 't', 't', 'i', 'n', 'g', 's', '"', ':', '{', '"', 'k', '"', ':', 't', 'r', 'u',
        'e', '}', '}']⟩),
    ([['c']],
      ⟨some ['{', '"', 's', 'e', 't', 't', 'i', 'n', 'g', 's', '"', ':', '{', '"', 'k', '"', ':', '{',
        '"', 'x', '"', ':', 't', 'r', 'u', 'e', '}', '}', '}']⟩)], []⟩

theorem linked_sample : Linked sampleFiles [] ⟨['/', 'a']⟩
    [{ sampleFirst with parents := some ["b"] }, { sampleBetween with parents := some ["c"] },
      sampleLast] :=
  have first : sampleFiles.canonical ⟨['/', 'a']⟩ = .ok [['a']] := rfl
  have second : sampleFiles.canonical ⟨['/', 'b']⟩ = .ok [['b']] := rfl
  have third : sampleFiles.canonical ⟨['/', 'c']⟩ = .ok [['c']] := rfl
  .next first (by decide) rfl (parentPaths_eq_ok_iff.1 rfl)
    (.next second (by decide) rfl (parentPaths_eq_ok_iff.1 rfl)
      (.last third (by decide) rfl (.alone rfl)))

theorem chain_sample : chain sampleFolders ⟨['/', 'p', '/', 'q']⟩ = .ok
    [.ofNames [['p'], ['q'], ".lintelrc.json".toList], .ofNames [['p'], ".lintelrc.json".toList],
      .ofNames [".lintelrc.json".toList]] := rfl

theorem merge_front_eq_back_iff_sample : ShieldsSettings sampleFirst sampleBetween sampleLast ∧
    ∃ stacked linked, find sampleFolders none ⟨['/', 'p', '/', 'q']⟩ = .ok stacked ∧
      resolve sampleFiles ⟨['/', 'a']⟩ = .ok linked ∧ stacked.linter = linked.linter ∧
      stacked.rules = linked.rules ∧ stacked.settings ≠ linked.settings := by
  obtain ⟨-, -, -, files⟩ := merge_front_eq_back_iff sampleFirst sampleBetween sampleLast
  obtain ⟨stacked, linked, found, resolved, linter, rules, settings⟩ :=
    files sampleFolders ⟨['/', 'p', '/', 'q']⟩ _ chain_sample
      (.cons rfl (.cons rfl (.cons rfl .nil))) sampleFiles ⟨['/', 'a']⟩ _ _ _ linked_sample
      ⟨rfl, rfl, rfl⟩ ⟨rfl, rfl, rfl⟩ ⟨rfl, rfl, rfl⟩
  refine ⟨shields_sample, stacked, linked, found, resolved, linter, rules, fun same => ?_⟩
  exact settings.1 same shields_sample

end Config

end ScriptLint
