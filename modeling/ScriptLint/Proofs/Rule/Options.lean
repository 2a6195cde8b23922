import ScriptLint.Rule.Options

/-!
# What shapes allow

`Conforms` says by recursion which values a shape allows, and `Violates` at which places a value goes
against it and how: a path that follows keys and indices to a part of the value, and what the part of
the shape that is meant there objects to. A bound that is no number forbids nothing, as nothing is less
or greater than it (`Double.Less`). Both know nothing of the search for faults. The search finds none
exactly in values that conform, and otherwise a violation (`judged_fault?`); for a list of options this
is `options_judged`.
-/

namespace ScriptLint

/-! ## Equality of values -/

namespace Json

/-- Whether two values are the same. A number that is written as a whole one is never a double, zero
has no sign, and the order of the members of an object is of no account. -/
inductive Equal : Json → Json → Prop where
  | null : Equal .null .null
  | bool {b : Bool} : Equal (.bool b) (.bool b)
  | int {n : Int} : Equal (.int n) (.int n)
  | double {x y : Binary64} (number : x.scaled = y.scaled) : Equal (.double x) (.double y)
  | str {s : String} : Equal (.str s) (.str s)
  | arr {as bs : List Json} (count : as.length = bs.length)
      (items : ∀ (i : Nat) (a b : Json), as[i]? = some a → bs[i]? = some b → Equal a b) :
      Equal (.arr as) (.arr bs)
  | obj {as bs : List (String × Json)} (count : as.length = bs.length)
      (keys : ∀ m ∈ as, bs.lookup m.1 ≠ none)
      (values : ∀ m ∈ as, ∀ b, bs.lookup m.1 = some b → Equal m.2 b) : Equal (.obj as) (.obj bs)

section
variable {as bs : List Json} {ms ns : List (String × Json)}

theorem sameItems_iff (same_iff : ∀ a ∈ as, ∀ b, a.same b = true ↔ Equal a b) :
    sameItems as bs = true ↔ as.length = bs.length ∧
      ∀ (i : Nat) (a b : Json), as[i]? = some a → bs[i]? = some b → Equal a b := by
  induction as generalizing bs with
  | nil => cases bs <;> simp [sameItems]
  | cons a as ih =>
    cases bs with
    | nil => simp [sameItems]
    | cons b bs =>
      rw [sameItems, Bool.and_eq_true, same_iff a List.mem_cons_self,
        ih fun other mem => same_iff other (List.mem_cons_of_mem a mem)]
      constructor
      · rintro ⟨first, count, items⟩
        refine ⟨congrArg (· + 1) count, fun i x y left right => ?_⟩
        cases i with
        | zero => exact Option.some.inj left ▸ Option.some.inj right ▸ first
        | succ i => exact items i x y left right
      · rintro ⟨count, items⟩
        exact ⟨items 0 a b rfl rfl, Nat.succ.inj count, fun i => items (i + 1)⟩

theorem sameMembers_iff (same_iff : ∀ m ∈ ms, ∀ b, m.2.same b = true ↔ Equal m.2 b) :
    sameMembers ms ns = true ↔ (∀ m ∈ ms, ns.lookup m.1 ≠ none) ∧
      ∀ m ∈ ms, ∀ b, ns.lookup m.1 = some b → Equal m.2 b := by
  induction ms with
  | nil => simp [sameMembers]
  | cons m ms ih =>
    rw [sameMembers, Bool.and_eq_true, ih fun other mem => same_iff other (List.mem_cons_of_mem m mem),
      List.forall_mem_cons, List.forall_mem_cons]
    cases found : ns.lookup m.1 with
    | none => simp
    | some b =>
      simp only [same_iff m List.mem_cons_self b, Option.some.injEq, forall_eq', ne_eq, reduceCtorEq,
        not_false_eq_true, true_and]
      exact and_left_comm

end

/-- Values that are compared as the same are the same. -/
theorem same_iff (a b : Json) : a.same b = true ↔ Equal a b := by
  cases a with
  | null =>
    cases b with
    | null => exact iff_of_true rfl .null
    | _ => exact iff_of_false (by simp [same]) (by rintro ⟨⟩)
  | bool x =>
    cases b with
    | bool y =>
      rw [same, beq_iff_eq]
      exact ⟨by rintro rfl; exact .bool, by rintro ⟨⟩; rfl⟩
    | _ => exact iff_of_false (by simp [same]) (by rintro ⟨⟩)
  | int m =>
    cases b with
    | int n =>
      rw [same, beq_iff_eq]
      exact ⟨by rintro rfl; exact .int, by rintro ⟨⟩; rfl⟩
    | _ => exact iff_of_false (by simp [same]) (by rintro ⟨⟩)
  | double x =>
    cases b with
    | double y =>
      rw [same, Binary64.sameValue, beq_iff_eq]
      exact ⟨.double, fun | .double number => number⟩
    | _ => exact iff_of_false (by simp [same]) (by rintro ⟨⟩)
  | str s =>
    cases b with
    | str t =>
      rw [same, beq_iff_eq]
      exact ⟨by rintro rfl; exact .str, by rintro ⟨⟩; rfl⟩
    | _ => exact iff_of_false (by simp [same]) (by rintro ⟨⟩)
  | arr as =>
    cases b with
    | arr bs =>
      rw [same, sameItems_iff fun a mem b =>
        have smaller := List.sizeOf_lt_of_mem mem
        same_iff a b]
      constructor
      · rintro ⟨count, items⟩
        exact .arr count items
      · intro equal
        cases equal with
        | arr count items => exact ⟨count, items⟩
    | _ => exact iff_of_false (by simp [same]) (by rintro ⟨⟩)
  | obj ms =>
    cases b with
    | obj ns =>
      rw [same, Bool.and_eq_true, beq_iff_eq, sameMembers_iff fun m mem b =>
        have smaller := List.sizeOf_lt_of_mem mem
        have inside : sizeOf m = 1 + sizeOf m.1 + sizeOf m.2 := rfl
        same_iff m.2 b]
      constructor
      · rintro ⟨count, keys, values⟩
        exact .obj count keys values
      · intro equal
        cases equal with
        | obj count keys values => exact ⟨count, keys, values⟩
    | _ => exact iff_of_false (by simp [same]) (by rintro ⟨⟩)
termination_by sizeOf a

end Json

/-! ## The order of numbers -/

namespace Double

/-- Whether a number is less than another one. What is no number is neither less nor greater. -/
inductive Less : Double → Double → Prop where
  | finite {x y : Binary64} (less : x.scaled < y.scaled) : Less (.finite x) (.finite y)
  | above (x : Binary64) : Less (.finite x) (.infinite false)
  | below (x : Binary64) : Less (.infinite true) (.finite x)
  | ends : Less (.infinite true) (.infinite false)

theorem lt_iff {x y : Double} : x.lt y = true ↔ Less x y := by
  constructor
  · intro less
    match x, y with
    | .finite _, .finite _ => exact .finite (of_decide_eq_true less)
    | .finite x, .infinite false => exact .above x
    | .infinite true, .finite y => exact .below y
    | .infinite true, .infinite false => exact .ends
  · rintro (less | _ | _ | _)
    · exact decide_eq_true less
    · rfl
    · rfl
    · rfl

end Double

namespace OptionShape

/-- Whether a shape allows a value. -/
inductive Conforms : OptionShape → Json → Prop where
  | any {value : Json} : Conforms .any value
  | boolean {b : Bool} : Conforms .boolean (.bool b)
  | string {s : String} : Conforms .string (.str s)
  | integer {minimum maximum : Option Int} {n : Int} (fits : Word.isSigned 64 n = true)
      (least : ∀ low ∈ minimum, low ≤ n) (most : ∀ high ∈ maximum, n ≤ high) :
      Conforms (.integer minimum maximum) (.int n)
  | number {minimum maximum : Option Double} {value : Json} {x : Binary64}
      (rounded : value.asDouble? = some x) (least : ∀ low ∈ minimum, ¬ Double.Less x low)
      (most : ∀ high ∈ maximum, ¬ Double.Less high x) : Conforms (.number minimum maximum) value
  | oneOf {values : List Json} {allowed value : Json} (among : allowed ∈ values)
      (equal : allowed.Equal value) : Conforms (.oneOf values) value
  | array {items : OptionShape} {minimum maximum : Option Nat} {values : List Json}
      (least : ∀ low ∈ minimum, low ≤ values.length)
      (most : ∀ high ∈ maximum, values.length ≤ high)
      (conform : ∀ value ∈ values, Conforms items value) :
      Conforms (.array items minimum maximum) (.arr values)
  | object {properties : List (String × OptionShape)} {required : List String} {additional : Bool}
      {members : List (String × Json)} (complete : ∀ name ∈ required, members.lookup name ≠ none)
      (conform : ∀ m ∈ members, ∀ shape, properties.lookup m.1 = some shape → Conforms shape m.2)
      (known : ∀ m ∈ members, properties.lookup m.1 = none → additional = true) :
      Conforms (.object properties required additional) (.obj members)
  | anyOf {alternatives : List OptionShape} {shape : OptionShape} {value : Json}
      (among : shape ∈ alternatives) (conforms : Conforms shape value) :
      Conforms (.anyOf alternatives) value

/-- Whether a value is of the sort that a shape is about, bounds and what is inside apart. -/
def Suits (value : Json) : OptionShape → Prop
  | .any => True
  | .boolean => ∃ b, value = .bool b
  | .string => ∃ s, value = .str s
  | .integer .. => ∃ n, value = .int n ∧ Word.isSigned 64 n = true
  | .number .. => ∃ x, value.asDouble? = some x
  | .oneOf values => ∃ allowed ∈ values, allowed.Equal value
  | .array .. => ∃ values, value = .arr values
  | .object .. => ∃ members, value = .obj members
  | .anyOf alternatives => ∃ shape ∈ alternatives, Conforms shape value

/-- Whether a value goes against a shape at a path of steps into it, and how. -/
inductive Violates : OptionShape → Json → List PathStep → OptionProblem → Prop where
  | unexpected {shape : OptionShape} {value : Json} (unsuited : ¬ Suits value shape) :
      Violates shape value [] (.unexpected shape value)
  | integerBelow {minimum maximum : Option Int} {n low : Int} (least : low ∈ minimum)
      (below : n < low) : Violates (.integer minimum maximum) (.int n) [] (.integerBelow low n)
  | integerAbove {minimum maximum : Option Int} {n high : Int} (most : high ∈ maximum)
      (above : high < n) : Violates (.integer minimum maximum) (.int n) [] (.integerAbove high n)
  | numberBelow {minimum maximum : Option Double} {value : Json} {x : Binary64} {low : Double}
      (rounded : value.asDouble? = some x) (least : low ∈ minimum) (below : Double.Less x low) :
      Violates (.number minimum maximum) value [] (.numberBelow low x)
  | numberAbove {minimum maximum : Option Double} {value : Json} {x : Binary64} {high : Double}
      (rounded : value.asDouble? = some x) (most : high ∈ maximum) (above : Double.Less high x) :
      Violates (.number minimum maximum) value [] (.numberAbove high x)
  | tooFewItems {items : OptionShape} {minimum maximum : Option Nat} {values : List Json} {low : Nat}
      (least : low ∈ minimum) (few : values.length < low) :
      Violates (.array items minimum maximum) (.arr values) [] (.tooFewItems low)
  | tooManyItems {items : OptionShape} {minimum maximum : Option Nat} {values : List Json}
      {high : Nat} (most : high ∈ maximum) (many : high < values.length) :
      Violates (.array items minimum maximum) (.arr values) [] (.tooManyItems high)
  | item {items : OptionShape} {minimum maximum : Option Nat} {values : List Json} {i : Nat}
      {value : Json} {path : List PathStep} {problem : OptionProblem}
      (there : values[i]? = some value) (inside : Violates items value path problem) :
      Violates (.array items minimum maximum) (.arr values) (.item i :: path) problem
  | missing {properties : List (String × OptionShape)} {required : List String} {additional : Bool}
      {members : List (String × Json)} {name : String} (needed : name ∈ required)
      (absent : members.lookup name = none) :
      Violates (.object properties required additional) (.obj members) [.key name] .missing
  | property {properties : List (String × OptionShape)} {required : List String}
      {additional : Bool} {members : List (String × Json)} {m : String × Json}
      {shape : OptionShape} {path : List PathStep} {problem : OptionProblem} (there : m ∈ members)
      (meant : properties.lookup m.1 = some shape) (inside : Violates shape m.2 path problem) :
      Violates (.object properties required additional) (.obj members) (.key m.1 :: path) problem
  | unknownProperty {properties : List (String × OptionShape)} {required : List String}
      {members : List (String × Json)} {m : String × Json} (there : m ∈ members)
      (unknown : properties.lookup m.1 = none) :
      Violates (.object properties required false) (.obj members) [.key m.1] .unknownProperty

section
variable {shape items : OptionShape} {value : Json} {path : List PathStep} {problem : OptionProblem}

/-- What conforms to a shape is of its sort. -/
theorem Conforms.suits (conforms : Conforms shape value) : Suits value shape := by
  cases conforms with
  | any => trivial
  | boolean => exact ⟨_, rfl⟩
  | string => exact ⟨_, rfl⟩
  | integer fits => exact ⟨_, rfl, fits⟩
  | number rounded => exact ⟨_, rounded⟩
  | oneOf among equal => exact ⟨_, among, equal⟩
  | array => exact ⟨_, rfl⟩
  | object => exact ⟨_, rfl⟩
  | anyOf among conforms => exact ⟨_, among, conforms⟩

/-- What goes against a shape somewhere does not conform to it. -/
theorem Violates.not_conforms (violates : Violates shape value path problem) :
    ¬ Conforms shape value := by
  intro conforms
  induction violates with
  | unexpected unsuited => exact unsuited conforms.suits
  | integerBelow least below =>
    cases conforms with
    | integer _ bound _ => exact Int.not_lt.2 (bound _ least) below
  | integerAbove most above =>
    cases conforms with
    | integer _ _ bound => exact Int.not_lt.2 (bound _ most) above
  | numberBelow rounded least below =>
    cases conforms with
    | number rounds bound _ =>
      obtain rfl := Option.some.inj (rounds.symm.trans rounded)
      exact bound _ least below
  | numberAbove rounded most above =>
    cases conforms with
    | number rounds _ bound =>
      obtain rfl := Option.some.inj (rounds.symm.trans rounded)
      exact bound _ most above
  | tooFewItems least few =>
    cases conforms with
    | array bound _ _ => exact Nat.not_lt.2 (bound _ least) few
  | tooManyItems most many =>
    cases conforms with
    | array _ bound _ => exact Nat.not_lt.2 (bound _ most) many
  | item there _ ih =>
    cases conforms with
    | array _ _ conform => exact ih (conform _ (List.mem_of_getElem? there))
  | missing needed absent =>
    cases conforms with
    | object complete _ _ => exact complete _ needed absent
  | property there meant _ ih =>
    cases conforms with
    | object _ conform _ => exact ih (conform _ there _ meant)
  | unknownProperty there unknown =>
    cases conforms with
    | object _ _ known => cases known _ there unknown

end

/-- Whether a verdict on a value is right: nothing is said of what conforms, and what is said is a
violation. -/
def Judged (shape : OptionShape) (value : Json) : Option OptionFault → Prop
  | none => Conforms shape value
  | some fault => Violates shape value fault.path fault.problem

theorem Judged.none_iff {shape : OptionShape} {value : Json} {verdict : Option OptionFault}
    (judged : Judged shape value verdict) : verdict = none ↔ Conforms shape value := by
  cases verdict with
  | none => exact iff_of_true rfl judged
  | some fault => exact iff_of_false (by simp) (Violates.not_conforms judged)

/-! ## The checks of a shape -/

section
variable {shape items : OptionShape} {value : Json} {values : List Json}
  {members : List (String × Json)} {properties : List (String × OptionShape)}
  {required : List String} {additional : Bool} {fault : OptionFault}

theorem judged_unexpected (unsuited : ¬ Suits value shape) :
    Judged shape value (some (.here (.unexpected shape value))) := .unexpected unsuited

theorem asInt64?_eq_some_iff {n : Int} :
    value.asInt64? = some n ↔ value = .int n ∧ Word.isSigned 64 n = true := by
  cases value with
  | int m =>
    by_cases fits : Word.isSigned 64 m = true
    · simp only [Json.asInt64?, fits, if_true, Option.some.injEq, Json.int.injEq]
      exact ⟨fun eq => ⟨eq, eq ▸ fits⟩, And.left⟩
    · simp only [Json.asInt64?, fits, Bool.false_eq_true, if_false, reduceCtorEq, Json.int.injEq,
        false_iff, not_and]
      rintro rfl
      exact fits
  | _ => simp [Json.asInt64?]

theorem judged_integer {minimum maximum : Option Int} {n : Int} (fits : Word.isSigned 64 n = true) :
    Judged (.integer minimum maximum) (.int n)
      ((integerFault? minimum maximum n).map OptionFault.here) := by
  unfold integerFault?
  split
  · rename_i low _ found
    obtain ⟨least, below⟩ := Option.filter_eq_some_iff.1 found
    exact .integerBelow least (of_decide_eq_true below)
  · rename_i high _ found
    obtain ⟨most, above⟩ := Option.filter_eq_some_iff.1 found
    exact .integerAbove most (of_decide_eq_true above)
  · rename_i noLow noHigh
    refine .integer fits (fun low mem => ?_) fun high mem => ?_
    · exact Int.not_lt.1 fun below => Option.filter_eq_none_iff.1 noLow low mem (decide_eq_true below)
    · exact Int.not_lt.1 fun above =>
        Option.filter_eq_none_iff.1 noHigh high mem (decide_eq_true above)

theorem judged_number {minimum maximum : Option Double} {x : Binary64}
    (rounded : value.asDouble? = some x) :
    Judged (.number minimum maximum) value
      ((numberFault? minimum maximum x).map OptionFault.here) := by
  unfold numberFault?
  split
  · rename_i low _ found
    obtain ⟨least, below⟩ := Option.filter_eq_some_iff.1 found
    exact .numberBelow rounded least (Double.lt_iff.1 below)
  · rename_i high _ found
    obtain ⟨most, above⟩ := Option.filter_eq_some_iff.1 found
    exact .numberAbove rounded most (Double.lt_iff.1 above)
  · rename_i noLow noHigh
    refine .number rounded (fun low mem => ?_) fun high mem => ?_
    · exact fun below => Option.filter_eq_none_iff.1 noLow low mem (Double.lt_iff.2 below)
    · exact fun above => Option.filter_eq_none_iff.1 noHigh high mem (Double.lt_iff.2 above)

theorem faultInItems_eq_none_iff {check : Json → Option OptionFault} {index : Nat} :
    faultInItems check index values = none ↔ ∀ value ∈ values, check value = none := by
  induction values generalizing index with
  | nil => simp [faultInItems]
  | cons value values ih => cases first : check value <;> simp [faultInItems, first, ih]

theorem exists_of_faultInItems {check : Json → Option OptionFault} {index : Nat}
    (found : faultInItems check index values = some fault) :
    ∃ i value inner, values[i]? = some value ∧ check value = some inner ∧
      fault = inner.under (.item (index + i)) := by
  induction values generalizing index with
  | nil => cases found
  | cons value values ih =>
    cases first : check value with
    | some inner =>
      rw [faultInItems, first] at found
      exact ⟨0, value, inner, rfl, first, (Option.some.inj found).symm⟩
    | none =>
      rw [faultInItems, first] at found
      obtain ⟨i, other, inner, there, fails, rfl⟩ := ih found
      exact ⟨i + 1, other, inner, there, fails, by rw [Nat.add_assoc, Nat.add_comm 1]⟩

theorem faultInMembers_eq_none_iff {check : String → Json → Option OptionFault} :
    faultInMembers check members = none ↔ ∀ m ∈ members, check m.1 m.2 = none := by
  induction members with
  | nil => simp [faultInMembers]
  | cons m members ih => cases first : check m.1 m.2 <;> simp [faultInMembers, first, ih]

theorem exists_of_faultInMembers {check : String → Json → Option OptionFault}
    (found : faultInMembers check members = some fault) :
    ∃ m ∈ members, ∃ inner, check m.1 m.2 = some inner ∧ fault = inner.under (.key m.1) := by
  induction members with
  | nil => cases found
  | cons m members ih =>
    cases first : check m.1 m.2 with
    | some inner =>
      rw [faultInMembers, first] at found
      exact ⟨m, List.mem_cons_self, inner, first, (Option.some.inj found).symm⟩
    | none =>
      rw [faultInMembers, first] at found
      obtain ⟨other, there, facts⟩ := ih found
      exact ⟨other, List.mem_cons_of_mem _ there, facts⟩

/-- The fault of a property is that of its shape; without one the property has to be allowed. -/
theorem propertyFault?_eq (key : String) (value : Json) :
    propertyFault? properties additional key value =
      match properties.lookup key with
      | some shape => fault? shape value
      | none => if additional then none else some (.here .unknownProperty) := by
  induction properties with
  | nil => rw [propertyFault?]; rfl
  | cons p properties ih =>
    obtain ⟨name, shape⟩ := p
    rw [propertyFault?, List.lookup_cons, ih]
    by_cases same : name = key
    · simp [same]
    · simp [same, beq_false_of_ne (Ne.symm same)]

theorem sizeOf_lt_of_lookup {key : String} (meant : properties.lookup key = some shape) :
    sizeOf shape < sizeOf properties := by
  obtain ⟨before, behind, rfl, -⟩ := List.lookup_eq_some_iff.1 meant
  have mem : (key, shape) ∈ before ++ (key, shape) :: behind := by simp
  have smaller := List.sizeOf_lt_of_mem mem
  rw [Prod.mk.sizeOf_spec] at smaller
  omega

theorem someAllows_iff {alternatives : List OptionShape} :
    someAllows alternatives value = true ↔ ∃ shape ∈ alternatives, fault? shape value = none := by
  induction alternatives with
  | nil => simp [someAllows]
  | cons shape alternatives ih => simp [someAllows, ih]

/-! ## Verdicts -/

theorem judged_array {minimum maximum : Option Nat}
    (judged : ∀ value ∈ values, Judged items value (fault? items value)) :
    Judged (.array items minimum maximum) (.arr values)
      (fault? (.array items minimum maximum) (.arr values)) := by
  simp only [fault?]
  unfold countFault?
  split
  · rename_i problem found
    split at found
    · rename_i low _ least
      cases found
      obtain ⟨least, few⟩ := Option.filter_eq_some_iff.1 least
      exact .tooFewItems least (of_decide_eq_true few)
    · rename_i high _ most
      cases found
      obtain ⟨most, many⟩ := Option.filter_eq_some_iff.1 most
      exact .tooManyItems most (of_decide_eq_true many)
    · cases found
  · rename_i counted
    split at counted
    · cases counted
    · cases counted
    rename_i noLow noHigh
    cases found : faultInItems (fault? items) 0 values with
    | some fault =>
      obtain ⟨i, value, inner, there, fails, rfl⟩ := exists_of_faultInItems found
      have inside := judged value (List.mem_of_getElem? there)
      rw [fails] at inside
      rw [Nat.zero_add]
      exact .item there inside
    | none =>
      have none := faultInItems_eq_none_iff.1 found
      refine .array (fun low mem => ?_) (fun high mem => ?_) fun value mem => ?_
      · exact Nat.not_lt.1 fun few => Option.filter_eq_none_iff.1 noLow low mem (decide_eq_true few)
      · exact Nat.not_lt.1 fun many =>
          Option.filter_eq_none_iff.1 noHigh high mem (decide_eq_true many)
      · exact (judged value mem).none_iff.1 (none value mem)

theorem judged_object
    (judged : ∀ key shape, properties.lookup key = some shape → ∀ value,
      Judged shape value (fault? shape value)) :
    Judged (.object properties required additional) (.obj members)
      (fault? (.object properties required additional) (.obj members)) := by
  simp only [fault?]
  unfold missing?
  cases absent : required.find? fun name => (members.lookup name).isNone with
  | some name =>
    have lacks := List.find?_some absent
    exact .missing (List.mem_of_find?_eq_some absent) (Option.isNone_iff_eq_none.1 lacks)
  | none =>
    simp only [Option.map_none]
    cases found : faultInMembers (propertyFault? properties additional) members with
    | some fault =>
      obtain ⟨m, there, inner, fails, rfl⟩ := exists_of_faultInMembers found
      rw [propertyFault?_eq] at fails
      split at fails
      · rename_i shape meant
        have inside := judged m.1 shape meant m.2
        rw [fails] at inside
        exact .property there meant inside
      · rename_i unknown
        split at fails
        · cases fails
        · rename_i closed
          cases fails
          obtain rfl : additional = false := by simpa using closed
          exact .unknownProperty there unknown
    | none =>
      have none := faultInMembers_eq_none_iff.1 found
      refine .object (fun name mem => ?_) (fun m there shape meant => ?_) fun m there unknown => ?_
      · simpa using List.find?_eq_none.1 absent name mem
      · have fine := none m there
        rw [propertyFault?_eq, meant] at fine
        exact (judged m.1 shape meant m.2).none_iff.1 fine
      · have fine := none m there
        rw [propertyFault?_eq, unknown] at fine
        cases additional with
        | true => rfl
        | false => cases fine

theorem judged_anyOf {alternatives : List OptionShape}
    (judged : ∀ shape ∈ alternatives, Judged shape value (fault? shape value)) :
    Judged (.anyOf alternatives) value (fault? (.anyOf alternatives) value) := by
  simp only [fault?]
  split
  · rename_i allows
    obtain ⟨shape, among, fine⟩ := someAllows_iff.1 allows
    exact .anyOf among ((judged shape among).none_iff.1 fine)
  · rename_i refuses
    refine judged_unexpected ?_
    rintro ⟨shape, among, conforms⟩
    exact refuses (someAllows_iff.2 ⟨shape, among, (judged shape among).none_iff.2 conforms⟩)

end

/-- The search for a fault in a value finds none exactly if the value conforms, and else a
violation. -/
theorem judged_fault? (shape : OptionShape) (value : Json) :
    Judged shape value (fault? shape value) := by
  cases shape with
  | any => exact .any
  | boolean =>
    cases value with
    | bool b => exact .boolean
    | _ => exact judged_unexpected (by simp [Suits])
  | string =>
    cases value with
    | str s => exact .string
    | _ => exact judged_unexpected (by simp [Suits])
  | integer minimum maximum =>
    simp only [fault?]
    cases whole : value.asInt64? with
    | some n =>
      obtain ⟨rfl, fits⟩ := asInt64?_eq_some_iff.1 whole
      exact judged_integer fits
    | none =>
      refine judged_unexpected ?_
      rintro ⟨n, rfl, fits⟩
      rw [asInt64?_eq_some_iff.2 ⟨rfl, fits⟩] at whole
      cases whole
  | number minimum maximum =>
    simp only [fault?]
    cases rounded : value.asDouble? with
    | some x => exact judged_number rounded
    | none => exact judged_unexpected (by simp [Suits, rounded])
  | oneOf values =>
    simp only [fault?]
    split
    · rename_i found
      obtain ⟨allowed, among, same⟩ := List.any_eq_true.1 found
      exact .oneOf among ((Json.same_iff allowed value).1 same)
    · rename_i none
      exact judged_unexpected fun ⟨allowed, among, equal⟩ =>
        none (List.any_eq_true.2 ⟨allowed, among, (Json.same_iff allowed value).2 equal⟩)
  | array items minimum maximum =>
    cases value with
    | arr values => exact judged_array fun value _ => judged_fault? items value
    | _ => exact judged_unexpected (by simp [Suits])
  | object properties required additional =>
    cases value with
    | obj members =>
      refine judged_object fun key shape meant value => ?_
      have smaller := sizeOf_lt_of_lookup meant
      exact judged_fault? shape value
    | _ => exact judged_unexpected (by simp [Suits])
  | anyOf alternatives =>
    refine judged_anyOf fun shape among => ?_
    have smaller := List.sizeOf_lt_of_mem among
    exact judged_fault? shape value
termination_by sizeOf shape

/-! ## Lists of options -/

section
variable {shapes : List OptionShape} {options : List Json} {fault : OptionFault}

theorem pathText_under (step : PathStep) (fault : OptionFault) :
    (fault.under step).pathText = step.render ++ fault.pathText := by
  simp [OptionFault.pathText, OptionFault.under]

/-- The fault of a list of options that is not too long is the first one of an option. -/
theorem listFault?_eq_none_iff (fit : options.length ≤ shapes.length) :
    listFault? shapes options = none ↔ ∀ (i : Nat) shape value, shapes[i]? = some shape →
      options[i]? = some value → fault? shape value = none := by
  rw [listFault?, if_neg (Nat.not_lt.2 fit), List.findSome?_eq_none_iff]
  constructor
  · intro none i shape value meant there
    have mem : ((shape, value), i) ∈ (shapes.zip options).zipIdx :=
      List.mem_zipIdx_iff_getElem?.2 (List.getElem?_zip_eq_some.2 ⟨meant, there⟩)
    exact Option.map_eq_none_iff.1 (none _ mem)
  · rintro none ⟨⟨shape, value⟩, i⟩ mem
    obtain ⟨meant, there⟩ := List.getElem?_zip_eq_some.1 (List.mem_zipIdx_iff_getElem?.1 mem)
    exact Option.map_eq_none_iff.2 (none i shape value meant there)

theorem exists_of_listFault? (fit : options.length ≤ shapes.length)
    (found : listFault? shapes options = some fault) :
    ∃ (i : Nat) (shape : OptionShape) (value : Json) (inner : OptionFault),
      shapes[i]? = some shape ∧ options[i]? = some value ∧ fault? shape value = some inner ∧ fault = inner.under (.item i) ∧
      ∀ j < i, ∀ shape value, shapes[j]? = some shape → options[j]? = some value →
        fault? shape value = none := by
  rw [listFault?, if_neg (Nat.not_lt.2 fit), List.findSome?_eq_some_iff] at found
  obtain ⟨before, ⟨⟨shape, value⟩, i⟩, behind, parts, fails, fine⟩ := found
  obtain ⟨inner, fault?_eq, rfl⟩ : ∃ inner, fault? shape value = some inner ∧
      inner.under (.item i) = fault := Option.map_eq_some_iff.1 fails
  have here : (shapes.zip options).zipIdx[before.length]? = some ((shape, value), i) := by
    simp [parts]
  rw [List.getElem?_zipIdx, Option.map_eq_some_iff] at here
  obtain ⟨pair, here, eq⟩ := here
  obtain ⟨rfl, rfl⟩ : pair = (shape, value) ∧ before.length = i := by simpa using eq
  obtain ⟨meant, there⟩ := List.getElem?_zip_eq_some.1 here
  refine ⟨_, shape, value, inner, meant, there, fault?_eq, rfl, fun j less other found known given => ?_⟩
  have paired : (shapes.zip options)[j]? = some (other, found) :=
    List.getElem?_zip_eq_some.2 ⟨known, given⟩
  have earlier : (shapes.zip options).zipIdx[j]? = some ((other, found), j) := by
    rw [List.getElem?_zipIdx, paired, Nat.zero_add]
    rfl
  rw [parts, List.getElem?_append_left less] at earlier
  exact Option.map_eq_none_iff.1 (fine _ (List.mem_of_getElem? earlier))

end

/-- Options are accepted exactly if there are no more of them than shapes and each conforms to the
shape in its position. Else the fault that is found is either that there are too many, and its path is
the number of shapes; or its path starts with the position of an option, those before which conform, and
leads to a place in it that goes against the shape meant there in the way that the fault says. -/
theorem options_judged (shapes : List OptionShape) (options : List Json) :
    (listFault? shapes options = none ↔ options.length ≤ shapes.length ∧
      ∀ (i : Nat) shape value, shapes[i]? = some shape → options[i]? = some value →
        Conforms shape value) ∧
    ∀ fault ∈ listFault? shapes options,
      (shapes.length < options.length ∧ fault.path = [.item shapes.length] ∧
        fault.pathText = "[" ++ toString shapes.length ++ "]" ∧
        fault.problem = .tooManyOptions shapes.length options.length) ∨
      (options.length ≤ shapes.length ∧ ∃ (i : Nat) (shape : OptionShape) (value : Json)
          (path : List PathStep),
        shapes[i]? = some shape ∧ options[i]? = some value ∧
        (∀ j < i, ∀ shape value, shapes[j]? = some shape → options[j]? = some value →
          Conforms shape value) ∧
        fault.path = .item i :: path ∧
        fault.pathText = "[" ++ toString i ++ "]" ++ String.join (path.map PathStep.render) ∧
        Violates shape value path fault.problem ∧ ¬ Conforms shape value) := by
  by_cases fit : options.length ≤ shapes.length
  · refine ⟨?_, fun fault found => .inr ⟨fit, ?_⟩⟩
    · simp only [listFault?_eq_none_iff fit, (judged_fault? _ _).none_iff, fit, true_and]
    · obtain ⟨i, shape, value, inner, meant, there, fails, rfl, fine⟩ :=
        exists_of_listFault? fit found
      have violates := judged_fault? shape value
      rw [fails] at violates
      refine ⟨i, shape, value, inner.path, meant, there, fun j less shape value known given => ?_, rfl,
        pathText_under _ _, violates, Violates.not_conforms violates⟩
      exact (judged_fault? shape value).none_iff.1 (fine j less shape value known given)
  · have long := Nat.not_le.1 fit
    have found : listFault? shapes options =
        some ⟨[.item shapes.length], .tooManyOptions shapes.length options.length⟩ := if_pos long
    rw [found]
    refine ⟨by simp [fit], fun fault same => .inl ?_⟩
    obtain rfl := Option.some.inj same
    exact ⟨long, rfl, by simp [OptionFault.pathText, PathStep.render], rfl⟩

end OptionShape

end ScriptLint
