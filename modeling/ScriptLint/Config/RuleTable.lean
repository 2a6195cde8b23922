import ScriptLint.Diagnostic.Record

/-!
# Rule tables

The entry of a rule says how severe its problems are, by name or by number, or gives the severity
together with the options of the rule. A table holds entries by the ids of rules, in ascending order.

* `RuleSetting.resolve` finds out what an entry means;
* `RuleTable.insert` sets an entry, `RuleTable.merge` fills a table up from another one.
-/

namespace ScriptLint

inductive RuleLevel where
  | off
  | info
  | warn
  | error
  deriving DecidableEq, Repr

namespace RuleLevel

def all : List RuleLevel := [.off, .info, .warn, .error]

def name : RuleLevel → String
  | off => "off"
  | info => "info"
  | warn => "warn"
  | error => "error"

def ofName? (name : String) : Option RuleLevel := all.find? fun l => l.name == name

def ofNumber? : Nat → Option RuleLevel
  | 0 => some off
  | 1 => some warn
  | 2 => some error
  | _ => none

/-- A level as it stands in a list: a name or a whole number. -/
def ofJson? : Json → Option RuleLevel
  | .str name => ofName? name
  | value => value.asNat64?.bind ofNumber?

def severity? : RuleLevel → Option Severity
  | off => none
  | info => some .info
  | warn => some .warning
  | error => some .error

end RuleLevel

inductive RuleSetting where
  | named (level : RuleLevel)
  | numbered (number : Nat)
  /-- A severity and the options. -/
  | list (values : List Json)

/-- Why an entry means nothing. -/
inductive SettingProblem where
  | badNumber (number : Nat)
  | noLevel
  | badLevel (value : Json)

namespace SettingProblem

def message : SettingProblem → String
  | badNumber number =>
    "invalid severity level " ++ toString number ++ ", expected 0, 1 or 2"
  | noLevel => "rule setting array must start with a severity"
  | badLevel value =>
    "invalid severity " ++ value.render ++
      ", expected \"off\", \"info\", \"warn\", \"error\" or 0-2"

end SettingProblem

namespace RuleSetting

/-- The severity and the options of a rule that is on; nothing for one that is off. -/
def resolve : RuleSetting → Except SettingProblem (Option (Severity × List Json))
  | named level => .ok (level.severity?.map (·, []))
  | numbered number =>
    match RuleLevel.ofNumber? number with
    | some level => .ok (level.severity?.map (·, []))
    | none => .error (.badNumber number)
  | list [] => .error .noLevel
  | list (value :: options) =>
    match RuleLevel.ofJson? value with
    | some level => .ok (level.severity?.map (·, options))
    | none => .error (.badLevel value)

def toJson : RuleSetting → Json
  | named level => .str level.name
  | numbered number => .ofNat number
  | list values => .arr values

end RuleSetting

/-- Entries in the ascending order of their ids, no id twice. -/
structure RuleTable where
  entries : List (String × RuleSetting)
  ascending : entries.Pairwise fun a b => a.1 < b.1

namespace RuleTable

def empty : RuleTable := ⟨[], .nil⟩

def get? (table : RuleTable) (id : String) : Option RuleSetting := table.entries.lookup id

def ids (table : RuleTable) : List String := table.entries.map Prod.fst

/-- An entry put into its place; an entry that is there already is given to `keep` with the new one. -/
def insertInto (keep : RuleSetting → RuleSetting → RuleSetting) (id : String)
    (setting : RuleSetting) : List (String × RuleSetting) → List (String × RuleSetting)
  | [] => [(id, setting)]
  | (other, there) :: rest =>
    if id < other then (id, setting) :: (other, there) :: rest
    else if id = other then (other, keep there setting) :: rest
    else (other, there) :: insertInto keep id setting rest

variable {keep : RuleSetting → RuleSetting → RuleSetting} {id : String} {setting : RuleSetting}

theorem fst_of_mem_insertInto {entries : List (String × RuleSetting)} {e : String × RuleSetting}
    (h : e ∈ insertInto keep id setting entries) : e.1 = id ∨ e.1 ∈ entries.map Prod.fst := by
  fun_induction insertInto keep id setting entries with
  | case1 => simp only [List.mem_singleton] at h; simp [h]
  | case2 other there rest _ =>
    rcases List.mem_cons.1 h with rfl | h
    · exact .inl rfl
    · exact .inr (List.mem_map_of_mem h)
  | case3 there rest _ =>
    rcases List.mem_cons.1 h with rfl | h
    · exact .inl rfl
    · exact .inr (List.mem_cons_of_mem _ (List.mem_map_of_mem h))
  | case4 other there rest _ _ ih =>
    rcases List.mem_cons.1 h with rfl | h
    · simp
    · rcases ih h with h | h
      · exact .inl h
      · exact .inr (List.mem_cons_of_mem _ h)

theorem ascending_insertInto {entries : List (String × RuleSetting)}
    (h : entries.Pairwise fun a b => a.1 < b.1) :
    (insertInto keep id setting entries).Pairwise fun a b => a.1 < b.1 := by
  fun_induction insertInto keep id setting entries with
  | case1 => simp
  | case2 other there rest less =>
    refine List.pairwise_cons.2 ⟨fun e mem => ?_, h⟩
    rcases List.mem_cons.1 mem with rfl | mem
    · exact less
    · exact String.lt_trans less ((List.pairwise_cons.1 h).1 e mem)
  | case3 there rest _ =>
    exact List.pairwise_cons.2 ⟨(List.pairwise_cons.1 h).1, (List.pairwise_cons.1 h).2⟩
  | case4 other there rest notLess notEq ih =>
    have tail := List.pairwise_cons.1 h
    refine List.pairwise_cons.2 ⟨fun e mem => ?_, ih tail.2⟩
    rcases fst_of_mem_insertInto mem with eq | mem
    · have := Std.lt_trichotomy id other
      show other < e.1
      rw [eq]
      grind
    · obtain ⟨e', mem, eq⟩ := List.mem_map.1 mem
      exact eq ▸ tail.1 e' mem

/-- Sets an entry. -/
def insert (table : RuleTable) (id : String) (setting : RuleSetting) : RuleTable :=
  ⟨insertInto (fun _ new => new) id setting table.entries, ascending_insertInto table.ascending⟩

/-- Adds an entry unless there is one of that id. -/
def fill (table : RuleTable) (id : String) (setting : RuleSetting) : RuleTable :=
  ⟨insertInto (fun there _ => there) id setting table.entries, ascending_insertInto table.ascending⟩

def ofList (entries : List (String × RuleSetting)) : RuleTable :=
  entries.foldl (fun table e => table.insert e.1 e.2) empty

/-- The first table filled up from the second one. -/
def merge (a b : RuleTable) : RuleTable := b.entries.foldl (fun table e => table.fill e.1 e.2) a

def toJson (table : RuleTable) : Json :=
  .obj (table.entries.map fun e => (e.1, e.2.toJson))

end RuleTable

end ScriptLint
