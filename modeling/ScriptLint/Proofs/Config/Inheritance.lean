import Mathlib.Data.List.Basic
import Mathlib.Data.List.Nodup
import Mathlib.Logic.Relation
import ScriptLint.Config.Inheritance
import ScriptLint.Proofs.FileSystem

/-!
# What a configuration extends

A configuration file extends the files that it names, from its own folder on, and reaches what these
reach. `Resolves` computes a configuration as `resolve` does, but with no bound on the steps:
it ends for every file system, and the bound never shows (`resolves_iff`). All of this holds whatever the
readers of the files make of a text.

A configuration comes out if and only if every file that is reached holds one and none of them reaches
itself again (`resolve_exact`). The files that are being filled up, each of which has led to the next
one, are what keeps a search from going on forever: they are different files of a finite system.
-/

namespace ScriptLint.Config

open Relation (ReflTransGen TransGen)

/-- The paths that a configuration in a file names, in their order. -/
inductive Lists (path : FilePath) (own : Config) : List FilePath → Prop
  | alone (unnamed : own.parents = none) : Lists path own []
  | named {names : List String} {folder : FilePath} (named : own.parents = some names)
    (within : path.parent? = some folder) :
    Lists path own (names.map fun name => folder.join (.ofString name))

section
variable [ConfigReader]

/-- The configuration of the first file names the second one, from the folder of the first one on. -/
def Extends (fs : FileSystem) (path parent : FilePath) : Prop :=
  ∃ own names folder name, load fs path = .ok own ∧ own.parents = some names ∧
    path.parent? = some folder ∧ name ∈ names ∧ parent = folder.join (.ofString name)

/-- What a file extends, directly or through others, and the file itself. -/
abbrev Reaches (fs : FileSystem) : FilePath → FilePath → Prop := ReflTransGen (Extends fs)

/-- A file is there and holds a configuration. -/
def Holds (fs : FileSystem) (path : FilePath) : Prop :=
  fs.isFile path = true ∧ ∃ own, load fs path = .ok own

/-- Two paths to one file, of which the first one reaches the second one by extending something. -/
def Circle (fs : FileSystem) (path again : FilePath) : Prop :=
  TransGen (Extends fs) path again ∧ fs.canonical again = fs.canonical path

mutual
/-- The configuration of a file with all that it extends, or why there is none. -/
inductive Resolves (fs : FileSystem) : List Names → FilePath → Except ConfigProblem Config → Prop
  | unreachable {visiting : List Names} {path : FilePath} {cause : FileProblem}
    (nowhere : fs.canonical path = .error cause) :
    Resolves fs visiting path (.error (.unreachable path cause))
  | circular {visiting : List Names} {path : FilePath} {names : Names}
    (leads : fs.canonical path = .ok names) (again : names ∈ visiting) :
    Resolves fs visiting path (.error (.circular path))
  | unloaded {visiting : List Names} {path : FilePath} {names : Names} {problem : ConfigProblem}
    (leads : fs.canonical path = .ok names) (fresh : names ∉ visiting)
    (fails : load fs path = .error problem) : Resolves fs visiting path (.error problem)
  | homeless {visiting : List Names} {path : FilePath} {names : Names} {own : Config}
    {listed : List String} (leads : fs.canonical path = .ok names) (fresh : names ∉ visiting)
    (loads : load fs path = .ok own) (named : own.parents = some listed)
    (nowhere : path.parent? = none) : Resolves fs visiting path (.error (.noFolder path))
  | filled {visiting : List Names} {path : FilePath} {names : Names} {own : Config}
    {paths : List FilePath} {result : Except ConfigProblem Config}
    (leads : fs.canonical path = .ok names) (fresh : names ∉ visiting)
    (loads : load fs path = .ok own) (lists : Lists path own paths)
    (fills : Fills fs (names :: visiting) own paths result) : Resolves fs visiting path result

/-- A configuration filled up from files one after the other, or why that fails. -/
inductive Fills (fs : FileSystem) :
    List Names → Config → List FilePath → Except ConfigProblem Config → Prop
  | done {visiting : List Names} {config : Config} : Fills fs visiting config [] (.ok config)
  | absent {visiting : List Names} {config : Config} {path : FilePath} {paths : List FilePath}
    (missing : fs.isFile path = false) :
    Fills fs visiting config (path :: paths) (.error (.parentAbsent path))
  | failed {visiting : List Names} {config : Config} {path : FilePath} {paths : List FilePath}
    {problem : ConfigProblem} (there : fs.isFile path = true)
    (fails : Resolves fs visiting path (.error problem)) :
    Fills fs visiting config (path :: paths) (.error problem)
  | next {visiting : List Names} {config parent : Config} {path : FilePath} {paths : List FilePath}
    {result : Except ConfigProblem Config} (there : fs.isFile path = true)
    (resolves : Resolves fs visiting path (.ok parent))
    (fills : Fills fs visiting (config.merge parent) paths result) :
    Fills fs visiting config (path :: paths) result
end

end

variable {fs fs' : FileSystem} {path parent : FilePath} {names : Names} {visiting : List Names}
  {steps : Nat} {own config result : Config} {paths : List FilePath}

/-! ## The paths that are named -/

theorem parentPaths_eq_ok_iff : parentPaths path own = .ok paths ↔ Lists path own paths := by
  unfold parentPaths
  constructor
  · intro made
    cases named : own.parents with
    | none =>
      rw [named] at made
      cases made
      exact .alone named
    | some names =>
      cases within : path.parent? with
      | none => simp [named, within] at made
      | some folder =>
        simp only [named, within] at made
        cases made
        exact .named named within
  · rintro (unnamed | ⟨named, within⟩)
    · rw [unnamed]
    · rw [named, within]

theorem Lists.eq_map {folder : FilePath} (lists : Lists path own paths)
    (within : path.parent? = some folder) :
    paths = (own.parents.getD []).map fun name => folder.join (.ofString name) := by
  cases lists with
  | alone unnamed => simp [unnamed]
  | named named within' =>
    cases within.symm.trans within'
    simp [named]

theorem parentPaths_eq_error_iff {problem : ConfigProblem} : parentPaths path own = .error problem ↔
    (∃ names, own.parents = some names) ∧ path.parent? = none ∧ problem = .noFolder path := by
  unfold parentPaths
  cases own.parents <;> cases path.parent? <;> simp [eq_comm]

/-! ## Filling up -/

theorem fillFrom_eq_ok_iff {resolveOne : FilePath → Except ConfigProblem Config} :
    fillFrom resolveOne fs own paths = .ok result ↔
      ∃ parents, List.Forall₂ (fun path parent => fs.isFile path = true ∧
        resolveOne path = .ok parent) paths parents ∧ result = parents.foldl Config.merge own := by
  induction paths generalizing own with
  | nil =>
    constructor
    · rintro ⟨⟩
      exact ⟨[], .nil, rfl⟩
    · rintro ⟨parents, ⟨⟩, rfl⟩
      rfl
  | cons path paths ih =>
    constructor
    · intro filled
      unfold fillFrom at filled
      cases there : fs.isFile path with
      | false => simp [there] at filled
      | true =>
        cases resolved : resolveOne path with
        | error problem => simp [there, resolved] at filled
        | ok parent =>
          simp only [there, resolved, if_true] at filled
          obtain ⟨parents, all, made⟩ := ih.1 filled
          exact ⟨parent :: parents, .cons ⟨there, resolved⟩ all, made⟩
    · rintro ⟨_, all, rfl⟩
      obtain ⟨parent, parents, ⟨there, resolved⟩, rest, rfl⟩ := List.forall₂_cons_left_iff.1 all
      unfold fillFrom
      simp only [there, resolved, if_true]
      exact ih.2 ⟨parents, rest, rfl⟩

/-- If every file that is named comes out, they come out together. -/
theorem exists_parents {resolveOne : FilePath → Except ConfigProblem Config}
    (all : ∀ path ∈ paths, fs.isFile path = true ∧ ∃ config, resolveOne path = .ok config) :
    ∃ parents, List.Forall₂ (fun path parent => fs.isFile path = true ∧
      resolveOne path = .ok parent) paths parents := by
  induction paths with
  | nil => exact ⟨[], .nil⟩
  | cons path paths ih =>
    obtain ⟨⟨there, config, resolved⟩, rest⟩ := List.forall_mem_cons.1 all
    obtain ⟨parents, all⟩ := ih rest
    exact ⟨config :: parents, .cons ⟨there, resolved⟩ all⟩

theorem foldl_merge_own (parents : List Config) (own : Config) :
    (parents.foldl Config.merge own).schema = own.schema ∧
      (parents.foldl Config.merge own).root = own.root ∧
      (parents.foldl Config.merge own).parents = own.parents := by
  induction parents generalizing own with
  | nil => exact ⟨rfl, rfl, rfl⟩
  | cons parent parents ih => exact ih (own.merge parent)

/-! ## Files on the way -/

/-- Different files of the system: those that are being filled up. -/
structure OnTheWay (fs : FileSystem) (visiting : List Names) : Prop where
  nodup : visiting.Nodup
  files : ∀ names ∈ visiting, ∃ file, fs.file? names = some file

theorem OnTheWay.length_le (way : OnTheWay fs visiting) : visiting.length ≤ fs.files.length := by
  have listed : visiting ⊆ fs.files.map Prod.fst := by
    intro names mem
    obtain ⟨file, there⟩ := way.files names mem
    exact List.mem_map_of_mem (FileSystem.listed_of_file? there).2
  simpa using way.nodup.length_le_of_subset listed

/-! ## Files that hold configurations -/

section
variable [ConfigReader]

theorem exists_file_of_load (loads : load fs path = .ok own) :
    ∃ names file, fs.canonical path = .ok names ∧ fs.file? names = some file := by
  unfold load FileSystem.read at loads
  cases leads : fs.canonical path with
  | error cause => simp [leads] at loads
  | ok names =>
    cases there : fs.file? names with
    | none => simp [leads, there] at loads
    | some file => exact ⟨names, file, rfl, there⟩

theorem holds_of_load (loads : load fs path = .ok own) : Holds fs path := by
  obtain ⟨names, file, leads, there⟩ := exists_file_of_load loads
  exact ⟨by simp [FileSystem.isFile, leads, there], own, loads⟩

/-- A file lies in a folder. -/
theorem exists_folder (loads : load fs path = .ok own) : ∃ folder, path.parent? = some folder := by
  obtain ⟨names, file, leads, there⟩ := exists_file_of_load loads
  cases within : path.parent? with
  | some folder => exact ⟨folder, rfl⟩
  | none =>
    rw [FileSystem.canonical_of_parent?_eq_none within] at leads
    cases leads
    rw [FileSystem.file?_root] at there
    cases there

/-- The files that a file names can be found. -/
theorem exists_lists (loads : load fs path = .ok own) : ∃ paths, Lists path own paths := by
  obtain ⟨folder, within⟩ := exists_folder loads
  cases named : own.parents with
  | none => exact ⟨_, .alone named⟩
  | some names => exact ⟨_, .named named within⟩

theorem extends_iff_mem (loads : load fs path = .ok own) (lists : Lists path own paths) :
    Extends fs path parent ↔ parent ∈ paths := by
  constructor
  · rintro ⟨own', names, folder, name, loads', named, within, mem, rfl⟩
    cases loads.symm.trans loads'
    cases lists with
    | alone unnamed => cases unnamed.symm.trans named
    | named named' within' =>
      cases named.symm.trans named'
      cases within.symm.trans within'
      exact List.mem_map_of_mem mem
  · intro mem
    cases lists with
    | alone => cases mem
    | named named within =>
      obtain ⟨name, among, rfl⟩ := List.mem_map.1 mem
      exact ⟨own, _, _, name, loads, named, within, among, rfl⟩

/-! ## What makes up a configuration -/

/-- What makes up the configuration of a file: its own one and those of the files it names. -/
structure Made (fs : FileSystem) (resolveOne : FilePath → Except ConfigProblem Config)
    (path : FilePath) (result : Config) (own : Config) (paths : List FilePath)
    (parents : List Config) : Prop where
  loads : load fs path = .ok own
  lists : Lists path own paths
  resolved : List.Forall₂ (fun path parent => fs.isFile path = true ∧ resolveOne path = .ok parent)
    paths parents
  result : result = parents.foldl Config.merge own

theorem made_of_resolveWithin (resolved : resolveWithin fs steps visiting path = .ok result) :
    ∃ left names own paths parents, steps = left + 1 ∧ fs.canonical path = .ok names ∧
      names ∉ visiting ∧
      Made fs (resolveWithin fs left (names :: visiting)) path result own paths parents := by
  cases steps with
  | zero => cases resolved
  | succ left =>
    unfold resolveWithin at resolved
    split at resolved
    case h_1 => cases resolved
    case h_2 names leads =>
      split at resolved
      case isTrue => cases resolved
      case isFalse fresh =>
        split at resolved
        case h_1 => cases resolved
        case h_2 own loads =>
          split at resolved
          case h_1 => cases resolved
          case h_2 paths listed =>
            obtain ⟨parents, all, made⟩ := fillFrom_eq_ok_iff.1 resolved
            exact ⟨left, names, own, paths, parents, rfl, leads, fresh, loads,
              parentPaths_eq_ok_iff.1 listed, all, made⟩

theorem resolveWithin_of_made {parents : List Config} (leads : fs.canonical path = .ok names)
    (fresh : names ∉ visiting)
    (made : Made fs (resolveWithin fs steps (names :: visiting)) path result own paths parents) :
    resolveWithin fs (steps + 1) visiting path = .ok result := by
  unfold resolveWithin
  simp only [leads, fresh, if_false, made.loads, parentPaths_eq_ok_iff.2 made.lists]
  exact fillFrom_eq_ok_iff.2 ⟨parents, made.resolved, made.result⟩

/-- Fewer files on the way and more steps do not spoil a configuration. -/
theorem resolveWithin_mono {more : Nat} {visiting' : List Names}
    (resolved : resolveWithin fs steps visiting path = .ok result) (fewer : visiting' ⊆ visiting)
    (le : steps ≤ more) : resolveWithin fs more visiting' path = .ok result := by
  induction steps generalizing path result visiting visiting' more with
  | zero => cases resolved
  | succ steps ih =>
    obtain ⟨more, rfl⟩ := Nat.exists_eq_add_of_le' (Nat.le_trans (Nat.le_add_left 1 steps) le)
    obtain ⟨left, names, own, paths, parents, one, leads, fresh, made⟩ := made_of_resolveWithin resolved
    cases one
    refine resolveWithin_of_made leads (fun again => fresh (fewer again))
      ⟨made.loads, made.lists, ?_, made.result⟩
    exact made.resolved.imp fun path parent each =>
      ⟨each.1, ih each.2 (List.cons_subset_cons names fewer) (Nat.le_of_succ_le_succ le)⟩

/-! ## The bound on the steps -/

theorem OnTheWay.cons (way : OnTheWay fs visiting) (loads : load fs path = .ok own)
    (leads : fs.canonical path = .ok names) (fresh : names ∉ visiting) :
    OnTheWay fs (names :: visiting) := by
  obtain ⟨names', file, leads', there⟩ := exists_file_of_load loads
  cases leads.symm.trans leads'
  exact ⟨List.nodup_cons.2 ⟨fresh, way.nodup⟩,
    List.forall_mem_cons.2 ⟨⟨file, there⟩, way.files⟩⟩

theorem fills_fillFrom (all : ∀ path, Resolves fs visiting path (resolveWithin fs steps visiting path))
    (config : Config) (paths : List FilePath) :
    Fills fs visiting config paths (fillFrom (resolveWithin fs steps visiting) fs config paths) := by
  induction paths generalizing config with
  | nil => exact .done
  | cons path paths ih =>
    unfold fillFrom
    cases there : fs.isFile path with
    | false => exact .absent there
    | true =>
      have first := all path
      cases resolved : resolveWithin fs steps visiting path with
      | error problem => exact .failed there (resolved ▸ first)
      | ok parent => exact .next there (resolved ▸ first) (ih (config.merge parent))

/-- With a step left for every file that may still come, the bound is not met. -/
theorem resolves_resolveWithin (way : OnTheWay fs visiting)
    (enough : fs.files.length < steps + visiting.length) (path : FilePath) :
    Resolves fs visiting path (resolveWithin fs steps visiting path) := by
  induction steps generalizing visiting path with
  | zero =>
    -- More different files would be on the way than there are.
    have := way.length_le
    omega
  | succ steps ih =>
    unfold resolveWithin
    split
    case h_1 cause nowhere => exact .unreachable nowhere
    case h_2 names leads =>
      split
      case isTrue again => exact .circular leads again
      case isFalse fresh =>
        split
        case h_1 problem fails => exact .unloaded leads fresh fails
        case h_2 own loads =>
          split
          case h_1 problem fails =>
            obtain ⟨⟨listed, named⟩, nowhere, rfl⟩ := parentPaths_eq_error_iff.1 fails
            exact .homeless leads fresh loads named nowhere
          case h_2 paths listed =>
            have lists : Lists path own paths := parentPaths_eq_ok_iff.1 listed
            have further : OnTheWay fs (names :: visiting) := way.cons loads leads fresh
            have left : fs.files.length < steps + (names :: visiting).length := by
              rw [List.length_cons]
              omega
            exact .filled leads fresh loads lists (fills_fillFrom (ih further left) own paths)

theorem resolves_resolve (fs : FileSystem) (path : FilePath) :
    Resolves fs [] path (resolve fs path) :=
  resolves_resolveWithin ⟨.nil, nofun⟩ (Nat.lt_succ_self _) path

/-- From some number of steps on, a bounded search gives what the search without a bound gives. -/
theorem Resolves.settles {outcome : Except ConfigProblem Config}
    (resolves : Resolves fs visiting path outcome) :
    ∃ enough, ∀ steps ≥ enough, resolveWithin fs steps visiting path = outcome := by
  refine @Resolves.rec _ fs
    (fun visiting path result _ =>
      ∃ enough, ∀ steps ≥ enough, resolveWithin fs steps visiting path = result)
    (fun visiting config paths result _ =>
      ∃ enough, ∀ steps ≥ enough,
        fillFrom (resolveWithin fs steps visiting) fs config paths = result)
    ?unreachable ?circular ?unloaded ?homeless ?filled ?done ?absent ?failed ?next
    visiting path outcome resolves
  case unreachable =>
    intro visiting path cause nowhere
    exact ⟨1, fun | steps + 1, _ => by simp [resolveWithin, nowhere]⟩
  case circular =>
    intro visiting path names leads again
    exact ⟨1, fun | steps + 1, _ => by simp [resolveWithin, leads, again]⟩
  case unloaded =>
    intro visiting path names problem leads fresh fails
    exact ⟨1, fun | steps + 1, _ => by simp [resolveWithin, leads, fresh, fails]⟩
  case homeless =>
    intro visiting path names own listed leads fresh loads named nowhere
    have fails : parentPaths path own = .error (.noFolder path) :=
      parentPaths_eq_error_iff.2 ⟨⟨listed, named⟩, nowhere, rfl⟩
    exact ⟨1, fun | steps + 1, _ => by simp [resolveWithin, leads, fresh, loads, fails]⟩
  case filled =>
    rintro visiting path names own paths result leads fresh loads lists - ⟨enough, settled⟩
    refine ⟨enough + 1, fun | steps + 1, le => ?_⟩
    simpa [resolveWithin, leads, fresh, loads, parentPaths_eq_ok_iff.2 lists] using
      settled steps (Nat.le_of_succ_le_succ le)
  case done =>
    intro visiting config
    exact ⟨0, fun steps _ => rfl⟩
  case absent =>
    intro visiting config path paths missing
    exact ⟨0, fun steps _ => by simp [fillFrom, missing]⟩
  case failed =>
    rintro visiting config path paths problem there - ⟨enough, settled⟩
    exact ⟨enough, fun steps le => by simp [fillFrom, there, settled steps le]⟩
  case next =>
    rintro visiting config parent path paths result there - - ⟨one, first⟩ ⟨other, rest⟩
    refine ⟨max one other, fun steps le => ?_⟩
    obtain ⟨le, le'⟩ := Nat.max_le.1 le
    simp [fillFrom, there, first steps le, rest steps le']

theorem resolves_iff {outcome : Except ConfigProblem Config} :
    Resolves fs [] path outcome ↔ resolve fs path = outcome := by
  constructor
  · intro resolves
    obtain ⟨one, settled⟩ := resolves.settles
    obtain ⟨other, settled'⟩ := (resolves_resolve fs path).settles
    exact (settled' _ (Nat.le_max_right one other)).symm.trans (settled _ (Nat.le_max_left one other))
  · rintro rfl
    exact resolves_resolve fs path

/-! ## Configurations that come out -/

theorem holds_of_resolveWithin (resolved : resolveWithin fs steps visiting path = .ok result) :
    Holds fs path := by
  obtain ⟨left, names, own, paths, parents, -, -, -, made⟩ := made_of_resolveWithin resolved
  exact holds_of_load made.loads

theorem fresh_of_resolveWithin (resolved : resolveWithin fs steps visiting path = .ok result)
    (leads : fs.canonical path = .ok names) : names ∉ visiting := by
  obtain ⟨left, names', own, paths, parents, -, leads', fresh, -⟩ := made_of_resolveWithin resolved
  cases leads.symm.trans leads'
  exact fresh

/-- A file that is extended comes out while the one that extends it is on the way. -/
theorem resolved_of_extends (resolved : resolveWithin fs steps visiting path = .ok result)
    (extends_ : Extends fs path parent) :
    ∃ left names config, steps = left + 1 ∧ fs.canonical path = .ok names ∧
      resolveWithin fs left (names :: visiting) parent = .ok config := by
  obtain ⟨left, names, own, paths, parents, more, leads, -, made⟩ := made_of_resolveWithin resolved
  have mem : parent ∈ paths := (extends_iff_mem made.loads made.lists).1 extends_
  obtain ⟨i, bound, rfl⟩ := List.mem_iff_getElem.1 mem
  exact ⟨left, names, _, more, leads, (made.resolved.get bound (made.resolved.length_eq ▸ bound)).2⟩

/-- Whatever is reached comes out as well, with no fewer files on the way. -/
theorem resolved_of_reaches (resolved : resolveWithin fs steps visiting path = .ok result)
    (reaches : Reaches fs path parent) :
    ∃ fewer visiting' config, fewer ≤ steps ∧ visiting ⊆ visiting' ∧
      resolveWithin fs fewer visiting' parent = .ok config := by
  induction reaches with
  | refl => exact ⟨steps, visiting, result, Nat.le_refl steps, List.Subset.refl visiting, resolved⟩
  | tail reaches extends_ ih =>
    obtain ⟨fewer, visiting', config, le, sub, resolved⟩ := ih
    obtain ⟨left, names, next, rfl, -, resolved⟩ := resolved_of_extends resolved extends_
    exact ⟨left, names :: visiting', next, Nat.le_of_succ_le le,
      List.subset_cons_of_subset names sub, resolved⟩

theorem no_circle_of_resolveWithin {again : FilePath}
    (resolved : resolveWithin fs steps visiting path = .ok result) : ¬ Circle fs path again := by
  rintro ⟨around, same⟩
  obtain ⟨next, extends_, reaches⟩ := TransGen.head'_iff.1 around
  obtain ⟨left, names, config, -, leads, resolved⟩ := resolved_of_extends resolved extends_
  obtain ⟨fewer, visiting', config', -, sub, resolved⟩ := resolved_of_reaches resolved reaches
  -- Where the circle closes, the file it started from is still on the way.
  exact fresh_of_resolveWithin resolved (same.trans leads) (sub List.mem_cons_self)

/-! ## Files that can be filled up -/

/-- Nothing that a file reaches is missing, broken or reached from itself again. -/
structure Sound (fs : FileSystem) (path : FilePath) : Prop where
  holds : ∀ reached, Reaches fs path reached → Holds fs reached
  open_ : ∀ reached again, Reaches fs path reached → ¬ Circle fs reached again

theorem sound_of_resolveWithin (resolved : resolveWithin fs steps visiting path = .ok result) :
    Sound fs path := by
  constructor
  case holds =>
    intro reached reaches
    obtain ⟨fewer, visiting', config, -, -, resolved⟩ := resolved_of_reaches resolved reaches
    exact holds_of_resolveWithin resolved
  case open_ =>
    intro reached again reaches
    obtain ⟨fewer, visiting', config, -, -, resolved⟩ := resolved_of_reaches resolved reaches
    exact no_circle_of_resolveWithin resolved

theorem Sound.of_extends (sound : Sound fs path) (extends_ : Extends fs path parent) :
    Sound fs parent :=
  ⟨fun reached reaches => sound.holds reached (.head extends_ reaches),
    fun reached again reaches => sound.open_ reached again (.head extends_ reaches)⟩

/-- The induction is on the steps. What a parent reaches is none of the files on the way: it is not the
file that names the parent, as this would close a circle, and none of those that came before. -/
theorem resolved_of_sound (sound : Sound fs path) (way : OnTheWay fs visiting)
    (enough : fs.files.length < steps + visiting.length)
    (aside : ∀ reached, Reaches fs path reached → ∀ names ∈ visiting, fs.canonical reached ≠ .ok names) :
    ∃ config, resolveWithin fs steps visiting path = .ok config := by
  induction steps generalizing path visiting with
  | zero =>
    have := way.length_le
    omega
  | succ steps ih =>
    obtain ⟨-, own, loads⟩ := sound.holds path .refl
    obtain ⟨names, file, leads, -⟩ := exists_file_of_load loads
    obtain ⟨paths, lists⟩ := exists_lists loads
    have fresh : names ∉ visiting := fun mem => aside path .refl names mem leads
    have all : ∀ parent ∈ paths, fs.isFile parent = true ∧
        ∃ config, resolveWithin fs steps (names :: visiting) parent = .ok config := by
      intro parent mem
      have extends_ := (extends_iff_mem loads lists).2 mem
      refine ⟨(sound.holds parent (.single extends_)).1,
        ih (sound.of_extends extends_) (way.cons loads leads fresh) ?_ ?_⟩
      · rw [List.length_cons]
        omega
      · intro reached reaches
        refine List.forall_mem_cons.2 ⟨fun same => ?_, aside reached (.head extends_ reaches)⟩
        exact sound.open_ path reached .refl ⟨.head' extends_ reaches, same.trans leads.symm⟩
    obtain ⟨parents, resolved⟩ := exists_parents all
    exact ⟨_, resolveWithin_of_made leads fresh ⟨loads, lists, resolved, rfl⟩⟩

theorem exists_resolve_iff : (∃ config, resolve fs path = .ok config) ↔ Sound fs path :=
  ⟨fun ⟨_, resolved⟩ => sound_of_resolveWithin resolved,
    fun sound => resolved_of_sound sound ⟨.nil, nofun⟩ (Nat.lt_succ_self _) fun _ _ => nofun⟩

/-- Whatever comes out with some number of steps comes out of `resolve`. -/
theorem resolve_of_resolveWithin (resolved : resolveWithin fs steps visiting path = .ok result) :
    resolve fs path = .ok result := by
  obtain ⟨config, resolved'⟩ := exists_resolve_iff.2 (sound_of_resolveWithin resolved)
  have one := resolveWithin_mono resolved (List.nil_subset visiting)
    (Nat.le_max_left steps (fs.files.length + 1))
  have other := resolveWithin_mono resolved' (List.Subset.refl [])
    (Nat.le_max_right steps (fs.files.length + 1))
  cases one.symm.trans other
  exact resolved'

/-- The configuration of a file is its own one, filled up from those of the files that it names. -/
theorem made_of_resolve (resolved : resolve fs path = .ok result) :
    ∃ own paths parents, Made fs (resolve fs) path result own paths parents := by
  obtain ⟨left, names, own, paths, parents, -, -, -, made⟩ := made_of_resolveWithin resolved
  refine ⟨own, paths, parents, made.loads, made.lists, ?_, made.result⟩
  exact made.resolved.imp fun path parent each => ⟨each.1, resolve_of_resolveWithin each.2⟩

/-! ## Changed files -/

theorem load_of_keeps (same : ∀ names, fs'.isFolder names = fs.isFolder names)
    (keeps : fs.Keeps fs' path) (loads : load fs path = .ok config) : load fs' path = .ok config := by
  obtain ⟨names, file, leads, -⟩ := exists_file_of_load loads
  rw [← loads, load, load, FileSystem.read_of_same same leads (keeps names leads)]

/-- What comes out of a file depends on the folders and on the files that are reached. -/
theorem resolveWithin_of_keeps {steps : Nat} {visiting : List Names}
    (same : ∀ names, fs'.isFolder names = fs.isFolder names)
    (keeps : ∀ reached, Reaches fs path reached → fs.Keeps fs' reached)
    (resolved : resolveWithin fs steps visiting path = .ok result) :
    resolveWithin fs' steps visiting path = .ok result := by
  induction steps generalizing path result visiting with
  | zero => cases resolved
  | succ steps ih =>
    obtain ⟨left, names, own, paths, parents, one, leads, fresh, made⟩ := made_of_resolveWithin resolved
    cases one
    have kept := keeps path .refl
    refine resolveWithin_of_made (FileSystem.canonical_of_same same leads (kept names leads)) fresh
      ⟨load_of_keeps same kept made.loads, made.lists, ?_, made.result⟩
    have reached : ∀ parent ∈ paths, Extends fs path parent :=
      fun _ mem => (extends_iff_mem made.loads made.lists).2 mem
    refine ((List.forall₂_and_left _ _).2 ⟨reached, made.resolved⟩).imp ?_
    rintro parent config ⟨extends_, there, resolved⟩
    obtain ⟨-, own', loads'⟩ := holds_of_resolveWithin resolved
    obtain ⟨names', file, leads', -⟩ := exists_file_of_load loads'
    have parent_kept := keeps parent (.single extends_) names' leads'
    exact ⟨(FileSystem.isFile_of_same same leads' parent_kept).trans there,
      ih (fun further reaches => keeps further (.head extends_ reaches)) resolved⟩

theorem resolve_of_keeps (same : ∀ names, fs'.isFolder names = fs.isFolder names)
    (keeps : ∀ reached, Reaches fs path reached → fs.Keeps fs' reached)
    (resolved : resolve fs path = .ok result) : resolve fs' path = .ok result :=
  resolve_of_resolveWithin (resolveWithin_of_keeps same keeps resolved)

/-! ## The whole search -/

/-- For every file system and file the search ends by itself, and `resolve` is what it ends with: the
bound on the steps does not show. A configuration comes out if and only if every file that is reached
holds one and none of these reaches itself again. It is then the file's own one, filled up from the
configurations of the files that it names from its folder on, in their order, and what belongs to the file
alone stays as it is. -/
theorem resolve_exact (fs : FileSystem) (path : FilePath) :
    (∀ outcome, Resolves fs [] path outcome ↔ resolve fs path = outcome) ∧
      ((∃ result, resolve fs path = .ok result) ↔
        (∀ reached, Reaches fs path reached → Holds fs reached) ∧
          ¬ ∃ reached again, Reaches fs path reached ∧ Circle fs reached again) ∧
      ∀ result, resolve fs path = .ok result →
        ∃ own folder parents, load fs path = .ok own ∧ path.parent? = some folder ∧
          List.Forall₂ (fun name parent => resolve fs (folder.join (.ofString name)) = .ok parent)
            (own.parents.getD []) parents ∧
          result = parents.foldl Config.merge own ∧
          result.schema = own.schema ∧ result.root = own.root ∧ result.parents = own.parents := by
  refine ⟨fun _ => resolves_iff, exists_resolve_iff.trans ⟨?_, ?_⟩, ?_⟩
  · rintro ⟨holds, open_⟩
    exact ⟨holds, fun ⟨reached, again, reaches, circle⟩ => open_ reached again reaches circle⟩
  · rintro ⟨holds, none⟩
    exact ⟨holds, fun reached again reaches circle => none ⟨reached, again, reaches, circle⟩⟩
  · intro result resolved
    obtain ⟨own, paths, parents, made⟩ := made_of_resolve resolved
    obtain ⟨schema, root, names⟩ := foldl_merge_own parents own
    obtain ⟨folder, within⟩ := exists_folder made.loads
    have resolved := made.resolved.imp fun _ _ => And.right
    rw [made.lists.eq_map within, List.forall₂_map_left_iff] at resolved
    refine ⟨own, folder, parents, made.loads, within, resolved, made.result, ?_⟩
    rw [made.result]
    exact ⟨schema, root, names⟩

end

end ScriptLint.Config
