import Mathlib.Data.List.Basic
import ScriptLint.Config.Discovery
import ScriptLint.Proofs.Config.Inheritance

/-!
# Which configuration files count for a folder

Every folder on the way from the root offers at most one configuration file, the first one in the order
of the names. The nearest file whose own text calls itself the root ends the search, so the folders that
count are those with no such file in a nearer folder (`Gathers`).

What lies above a root can change as it likes, if only no file that counts extends it: the search does
not get there, and the paths that it follows pass through folders and through files that it reads.
-/

namespace ScriptLint.Config

open FileSystem (IsName)

/-- The file of a folder that counts: none with an earlier name is there. -/
def Offers (fs : FileSystem) (folder : Names) (path : FilePath) : Prop :=
  ∃ before name after, fileNames = before ++ name :: after ∧
    path = .ofNames (folder ++ [name.toList]) ∧
    (fs.file? (folder ++ [name.toList])).isSome = true ∧
    ∀ earlier ∈ before, fs.file? (folder ++ [earlier.toList]) = none

/-- The file of a folder that counts calls itself the root. -/
def Rooted [ConfigReader] (fs : FileSystem) (folder : Names) : Prop :=
  ∃ path config, Offers fs folder path ∧ load fs path = .ok config ∧ config.root = some true

/-- The first folder lies above the second one. -/
def Above (far near : Names) : Prop := far <+: near ∧ far ≠ near

/-- The folders whose files count for a folder, and these files, the nearest first. -/
structure Gathers [ConfigReader] (fs : FileSystem) (names : Names) (folders : List Names)
    (files : List FilePath) : Prop where
  offered : List.Forall₂ (Offers fs) folders files
  nearest_first : folders.Pairwise fun near far => Above far near
  complete : ∀ folder, folder ∈ folders ↔ folder <+: names ∧
    (∃ name ∈ fileNames, (fs.file? (folder ++ [name.toList])).isSome = true) ∧
    ∀ nearer, nearer <+: names → Above folder nearer → ¬ Rooted fs nearer

/-- The second system differs from the first one in configuration files only, which lie in folders
above `home`. -/
structure ChangedAbove (fs fs' : FileSystem) (home : Names) : Prop where
  folders : ∀ names, fs'.isFolder names = fs.isFolder names
  files : ∀ names, fs'.file? names ≠ fs.file? names →
    ∃ folder, Above folder home ∧ ∃ name ∈ fileNames, names = folder ++ [name.toList]

variable {fs fs' : FileSystem} {start path : FilePath} {names folder home : Names}
  {folders : List Names} {files : List FilePath} {config result : Config}

/-! ## The file of a folder -/

theorem mem_fileNames {before after : List String} {name : String}
    (parts : fileNames = before ++ name :: after) :
    name ∈ fileNames ∧ ∀ earlier ∈ before, earlier ∈ fileNames := by
  rw [parts]
  exact ⟨List.mem_append_right before List.mem_cons_self,
    fun _ first => List.mem_append_left _ first⟩

theorem exists_offers_iff : (∃ path, Offers fs folder path) ↔
    ∃ name ∈ fileNames, (fs.file? (folder ++ [name.toList])).isSome = true := by
  constructor
  · rintro ⟨path, before, name, after, parts, -, there, -⟩
    exact ⟨name, (mem_fileNames parts).1, there⟩
  · intro there
    obtain ⟨name, found⟩ := Option.isSome_iff_exists.1 (List.find?_isSome.2 there)
    obtain ⟨there, before, after, parts, none⟩ := List.find?_eq_some_iff_append.1 found
    exact ⟨_, before, name, after, parts, rfl, there, fun earlier mem => by simpa using none earlier mem⟩

theorem isName_of_mem_fileNames : ∀ name ∈ fileNames, IsName name.toList := by
  simp only [fileNames, List.forall_mem_cons]
  refine ⟨?_, ?_, ?_, ?_, ?_, List.forall_mem_nil _⟩ <;> constructor <;> decide

theorem isFile_file (proper : ∀ name ∈ folder, IsName name) {name : String} (mem : name ∈ fileNames) :
    fs.isFile (.ofNames (folder ++ [name.toList])) = (fs.file? (folder ++ [name.toList])).isSome :=
  FileSystem.isFile_ofNames fs (List.forall_mem_append.2
    ⟨proper, List.forall_mem_singleton.2 (isName_of_mem_fileNames name mem)⟩)

theorem fileIn?_eq_some_iff (proper : ∀ name ∈ folder, IsName name) :
    fileIn? fs folder = some path ↔ Offers fs folder path := by
  unfold fileIn? Offers
  rw [List.find?_map, Option.map_eq_some_iff]
  constructor
  · rintro ⟨name, found, rfl⟩
    obtain ⟨there, before, after, parts, none⟩ := List.find?_eq_some_iff_append.1 found
    obtain ⟨mem, before_mem⟩ := mem_fileNames parts
    refine ⟨before, name, after, parts, rfl, (isFile_file proper mem).symm.trans there, ?_⟩
    intro earlier first
    have absent := none earlier first
    rw [Function.comp_apply, isFile_file proper (before_mem earlier first)] at absent
    simpa using absent
  · rintro ⟨before, name, after, parts, rfl, there, none⟩
    obtain ⟨mem, before_mem⟩ := mem_fileNames parts
    refine ⟨name, List.find?_eq_some_iff_append.2
      ⟨(isFile_file proper mem).trans there, before, after, parts, fun earlier first => ?_⟩, rfl⟩
    rw [Function.comp_apply, isFile_file proper (before_mem earlier first), none earlier first]
    rfl

theorem not_offers_of_fileIn? (proper : ∀ name ∈ folder, IsName name) (none : fileIn? fs folder = none) :
    ¬ ∃ path, Offers fs folder path := by
  rintro ⟨path, offers⟩
  cases none.symm.trans ((fileIn?_eq_some_iff proper).2 offers)

theorem offers_congr (same : ∀ name ∈ fileNames,
      fs'.file? (folder ++ [name.toList]) = fs.file? (folder ++ [name.toList])) :
    Offers fs' folder path ↔ Offers fs folder path := by
  refine exists_congr fun before => exists_congr fun name => exists_congr fun after =>
    and_congr_right fun parts => and_congr_right fun _ => ?_
  obtain ⟨mem, before_mem⟩ := mem_fileNames parts
  rw [same name mem]
  refine and_congr_right fun _ => forall₂_congr fun earlier first => ?_
  rw [same earlier (before_mem earlier first)]

theorem fileIn?_congr (proper : ∀ name ∈ folder, IsName name)
    (same : ∀ name ∈ fileNames,
      fs'.file? (folder ++ [name.toList]) = fs.file? (folder ++ [name.toList])) :
    fileIn? fs' folder = fileIn? fs folder := by
  ext path
  rw [fileIn?_eq_some_iff proper, fileIn?_eq_some_iff proper, offers_congr same]

/-! ## The way up -/

theorem Above.asymm (above : Above folder home) : ¬ Above home folder :=
  fun below => above.2 (above.1.eq_of_length_le below.1.length_le)

theorem Above.length_lt (above : Above folder home) : folder.length < home.length :=
  Nat.lt_of_not_le fun le => above.2 (above.1.eq_of_length_le le)

theorem mem_upward : folder ∈ upward names ↔ folder <+: names := by
  unfold upward
  rw [List.mem_map]
  constructor
  · rintro ⟨count, -, rfl⟩
    exact List.take_prefix count names
  · intro within
    refine ⟨folder.length, ?_, (List.prefix_iff_eq_take.1 within).symm⟩
    rw [List.mem_reverse, List.mem_range]
    exact Nat.lt_succ_of_le within.length_le

theorem upward_ordered (names : Names) : (upward names).Pairwise fun near far => Above far near := by
  refine List.pairwise_map.2 (List.Pairwise.imp_of_mem ?_
    (List.pairwise_reverse.2 List.pairwise_lt_range))
  intro high low mem mem' less
  have bound : high < names.length + 1 := List.mem_range.1 (List.mem_reverse.1 mem)
  refine ⟨List.take_prefix_take_left (Nat.le_of_lt less), fun same => ?_⟩
  have lengths := congrArg List.length same
  rw [List.length_take, List.length_take] at lengths
  omega

theorem proper_of_mem_upward (leads : fs.canonical start = .ok names) :
    ∀ folder ∈ upward names, ∀ name ∈ folder, IsName name :=
  fun _ within name mem =>
    FileSystem.proper_of_canonical leads name ((mem_upward.1 within).subset mem)

/-- A change above a folder leaves the folder and all that lies in it as it is. -/
theorem ChangedAbove.file?_eq (changed : ChangedAbove fs fs' home) (folder : fs.isFolder home = true)
    (within : home <+: names) : fs'.file? names = fs.file? names := by
  by_contra differs
  obtain ⟨higher, above, name, -, rfl⟩ := changed.files _ differs
  -- There is room for one more name below `higher`, so the changed file would be `home` itself.
  have le : (higher ++ [name.toList]).length ≤ home.length := by
    rw [List.length_append]
    exact above.length_lt
  cases within.eq_of_length_le le
  rw [FileSystem.file?_of_isFolder folder,
    FileSystem.file?_of_isFolder ((changed.folders _).trans folder)] at differs
  exact differs rfl

theorem not_above_nearest {near : Names}
    (ordered : (near :: folders).Pairwise fun near far => Above far near) :
    ∀ nearer ∈ near :: folders, ¬ Above near nearer :=
  List.forall_mem_cons.2 ⟨fun self => self.2 rfl,
    fun _ mem => (List.rel_of_pairwise_cons ordered mem).asymm⟩

theorem foldl_merge_empty (configs : List Config) :
    (configs.foldl Config.merge .empty).schema = none ∧
      (configs.foldl Config.merge .empty).parents = none :=
  ⟨(foldl_merge_own configs .empty).1, (foldl_merge_own configs .empty).2.2⟩

section
variable [ConfigReader]

theorem not_rooted (none : ¬ ∃ path, Offers fs folder path) : ¬ Rooted fs folder :=
  fun ⟨path, _, offers, _⟩ => none ⟨path, offers⟩

theorem rooted_iff (proper : ∀ name ∈ folder, IsName name) (offers : Offers fs folder path)
    (loads : load fs path = .ok config) : Rooted fs folder ↔ config.root = some true := by
  constructor
  · rintro ⟨path', config', offers', loads', root⟩
    have found := (fileIn?_eq_some_iff proper).2 offers
    cases found.symm.trans ((fileIn?_eq_some_iff proper).2 offers')
    cases loads.symm.trans loads'
    exact root
  · exact fun root => ⟨path, config, offers, loads, root⟩

/-- What one folder adds to the files of the folders behind it. -/
theorem chainAlong_cons_eq_ok_iff {near : Names} :
    chainAlong fs (near :: folders) = .ok files ↔
      fileIn? fs near = none ∧ chainAlong fs folders = .ok files ∨
      ∃ path config, fileIn? fs near = some path ∧ load fs path = .ok config ∧
        (config.root = some true ∧ files = [path] ∨
          config.root ≠ some true ∧ ∃ more, chainAlong fs folders = .ok more ∧ files = path :: more) := by
  rw [chainAlong]
  cases found : fileIn? fs near with
  | none => simp
  | some path =>
    cases loads : load fs path with
    | error problem => simp [loads]
    | ok config =>
      by_cases root : config.root = some true
      · simp [loads, root, eq_comm (a := files)]
      · cases chainAlong fs folders <;> simp [loads, root, Except.map, eq_comm (a := files)]

/-- A folder has a file, and no root is nearer. -/
def Counts (fs : FileSystem) (folders : List Names) (folder : Names) : Prop :=
  folder ∈ folders ∧ (∃ path, Offers fs folder path) ∧
    ∀ nearer ∈ folders, Above folder nearer → ¬ Rooted fs nearer

section

variable {near : Names} (ordered : (near :: folders).Pairwise fun near far => Above far near)

include ordered

theorem counts_cons_of_rooted (rooted : Rooted fs near) :
    Counts fs (near :: folders) folder ↔ folder = near := by
  constructor
  · rintro ⟨mem, -, open_⟩
    rcases List.mem_cons.1 mem with rfl | mem
    · rfl
    · exact absurd rooted (open_ near List.mem_cons_self (List.rel_of_pairwise_cons ordered mem))
  · rintro rfl
    obtain ⟨path, config, offers, -⟩ := rooted
    exact ⟨List.mem_cons_self, ⟨path, offers⟩,
      fun nearer mem above => absurd above (not_above_nearest ordered nearer mem)⟩

theorem counts_cons_of_not_rooted (unrooted : ¬ Rooted fs near) :
    Counts fs (near :: folders) folder ↔
      (∃ path, Offers fs near path) ∧ folder = near ∨ Counts fs folders folder := by
  constructor
  · rintro ⟨mem, offers, open_⟩
    rcases List.mem_cons.1 mem with rfl | mem
    · exact .inl ⟨offers, rfl⟩
    · exact .inr ⟨mem, offers, (List.forall_mem_cons.1 open_).2⟩
  · rintro (⟨offers, rfl⟩ | ⟨mem, offers, open_⟩)
    · exact ⟨List.mem_cons_self, offers,
        fun nearer mem above => absurd above (not_above_nearest ordered nearer mem)⟩
    · exact ⟨List.mem_cons_of_mem near mem, offers, List.forall_mem_cons.2 ⟨fun _ => unrooted, open_⟩⟩

end

/-- On the way up, the folders that count are gathered in their order. -/
theorem gathered_of_chainAlong (proper : ∀ folder ∈ folders, ∀ name ∈ folder, IsName name)
    (ordered : folders.Pairwise fun near far => Above far near)
    (made : chainAlong fs folders = .ok files) :
    ∃ kept, kept.Sublist folders ∧ List.Forall₂ (Offers fs) kept files ∧
      ∀ folder, folder ∈ kept ↔ Counts fs folders folder := by
  induction folders generalizing files with
  | nil =>
    cases made
    exact ⟨[], .slnil, .nil, by simp [Counts]⟩
  | cons near folders ih =>
    obtain ⟨first, proper⟩ := List.forall_mem_cons.1 proper
    have behind := (List.pairwise_cons.1 ordered).2
    rcases chainAlong_cons_eq_ok_iff.1 made with
      ⟨none, rest⟩ | ⟨path, config, found, loads, ⟨root, rfl⟩ | ⟨open_, more, rest, rfl⟩⟩
    · have empty := not_offers_of_fileIn? first none
      obtain ⟨kept, sub, offered, complete⟩ := ih proper behind rest
      refine ⟨kept, sub.cons near, offered, fun folder => ?_⟩
      rw [complete, counts_cons_of_not_rooted ordered (not_rooted empty),
        or_iff_right fun own => empty own.1]
    · have offers := (fileIn?_eq_some_iff first).1 found
      refine ⟨[near], (List.nil_sublist folders).cons_cons near, .cons offers .nil, fun folder => ?_⟩
      rw [List.mem_singleton,
        counts_cons_of_rooted ordered ((rooted_iff first offers loads).2 root)]
    · have offers := (fileIn?_eq_some_iff first).1 found
      obtain ⟨kept, sub, offered, complete⟩ := ih proper behind rest
      refine ⟨near :: kept, sub.cons_cons near, .cons offers offered, fun folder => ?_⟩
      rw [List.mem_cons, complete,
        counts_cons_of_not_rooted ordered (mt (rooted_iff first offers loads).1 open_),
        and_iff_right ⟨path, offers⟩]

theorem chain_eq (leads : fs.canonical start = .ok names) :
    chain fs start = chainAlong fs (upward names) := by
  simp only [chain, leads]

theorem gathers_of_chain (made : chain fs start = .ok files) :
    ∃ names folders, fs.canonical start = .ok names ∧ Gathers fs names folders files := by
  cases leads : fs.canonical start with
  | error cause => simp [chain, leads] at made
  | ok names =>
    rw [chain_eq leads] at made
    obtain ⟨kept, sub, offered, complete⟩ :=
      gathered_of_chainAlong (proper_of_mem_upward leads) (upward_ordered names) made
    refine ⟨names, kept, rfl, offered, (upward_ordered names).sublist sub, fun folder => ?_⟩
    rw [complete, Counts, exists_offers_iff]
    simp only [mem_upward]

/-! ## The configurations as one -/

theorem mergeFiles_eq_ok_iff :
    mergeFiles fs config files = .ok result ↔
      ∃ configs, List.Forall₂ (fun path config => resolve fs path = .ok config) files configs ∧
        result = configs.foldl Config.merge config := by
  induction files generalizing config with
  | nil =>
    constructor
    · rintro ⟨⟩
      exact ⟨[], .nil, rfl⟩
    · rintro ⟨configs, ⟨⟩, rfl⟩
      rfl
  | cons path files ih =>
    constructor
    · intro merged
      unfold mergeFiles at merged
      cases resolved : resolve fs path with
      | error problem => simp [resolved] at merged
      | ok next =>
        simp only [resolved] at merged
        obtain ⟨configs, all, made⟩ := ih.1 merged
        exact ⟨next :: configs, .cons resolved all, made⟩
    · rintro ⟨_, all, rfl⟩
      obtain ⟨next, configs, resolved, rest, rfl⟩ := List.forall₂_cons_left_iff.1 all
      unfold mergeFiles
      simp only [resolved]
      exact ih.2 ⟨configs, rest, rfl⟩

theorem discover_eq_ok_iff :
    discover fs start = .ok result ↔
      ∃ files configs, chain fs start = .ok files ∧ files ≠ [] ∧
        List.Forall₂ (fun path config => resolve fs path = .ok config) files configs ∧
        result = { configs.foldl Config.merge .empty with root := some true } := by
  unfold discover
  constructor
  · intro found
    split at found
    case h_1 => cases found
    case h_2 => cases found
    case h_3 files some made =>
      cases merged : mergeFiles fs .empty files with
      | error problem => simp [merged, Except.map] at found
      | ok config =>
        rw [merged] at found
        cases found
        obtain ⟨configs, all, rfl⟩ := mergeFiles_eq_ok_iff.1 merged
        exact ⟨files, configs, made, some, all, rfl⟩
  · rintro ⟨files, configs, made, some, all, rfl⟩
    have merged : mergeFiles fs .empty files = .ok (configs.foldl Config.merge .empty) :=
      mergeFiles_eq_ok_iff.2 ⟨configs, all, rfl⟩
    cases files with
    | nil => exact absurd rfl some
    | cons path files =>
      simp only [made, merged]
      rfl

/-! ## Changes above a root -/

theorem Rooted.isFolder (rooted : Rooted fs home) : fs.isFolder home = true := by
  obtain ⟨path, config, ⟨before, name, after, -, -, there, -⟩, -⟩ := rooted
  obtain ⟨file, there⟩ := Option.isSome_iff_exists.1 there
  exact FileSystem.isFolder_of_contains (FileSystem.contains_of_file? there) (List.cons_ne_nil _ [])

/-- The search does not get past a root, so it does not see what lies above one. -/
theorem chainAlong_of_changedAbove (changed : ChangedAbove fs fs' home)
    (proper : ∀ folder ∈ folders, ∀ name ∈ folder, IsName name)
    (ordered : folders.Pairwise fun near far => Above far near)
    (mem : home ∈ folders) (rooted : Rooted fs home)
    (keeps : ∀ path ∈ files, fs.Keeps fs' path) (made : chainAlong fs folders = .ok files) :
    chainAlong fs' folders = .ok files := by
  induction folders generalizing files with
  | nil => cases mem
  | cons near folders ih =>
    obtain ⟨first, proper⟩ := List.forall_mem_cons.1 proper
    obtain ⟨above, ordered⟩ := List.pairwise_cons.1 ordered
    -- The search has not got past `home`, so its folders are `home` and those that lie in it.
    have within : home <+: near := by
      rcases List.mem_cons.1 mem with rfl | mem
      · exact List.prefix_rfl
      · exact (above home mem).1
    have kept : fileIn? fs' near = fileIn? fs near :=
      fileIn?_congr first fun name _ =>
        changed.file?_eq rooted.isFolder (within.trans (List.prefix_append near [name.toList]))
    have further : ¬ Rooted fs near → home ∈ folders := by
      intro unrooted
      rcases List.mem_cons.1 mem with rfl | mem
      · exact absurd rooted unrooted
      · exact mem
    refine chainAlong_cons_eq_ok_iff.2 ?_
    rcases chainAlong_cons_eq_ok_iff.1 made with
      ⟨none, rest⟩ | ⟨path, config, found, loads, ⟨root, rfl⟩ | ⟨open_, more, rest, rfl⟩⟩
    · have empty := not_offers_of_fileIn? first none
      exact .inl ⟨kept.trans none, ih proper ordered (further (not_rooted empty)) keeps rest⟩
    · exact .inr ⟨path, config, kept.trans found,
        load_of_keeps changed.folders (keeps path List.mem_cons_self) loads, .inl ⟨root, rfl⟩⟩
    · obtain ⟨keep, keeps⟩ := List.forall_mem_cons.1 keeps
      have unrooted : ¬ Rooted fs near :=
        mt (rooted_iff first ((fileIn?_eq_some_iff first).1 found) loads).1 open_
      exact .inr ⟨path, config, kept.trans found, load_of_keeps changed.folders keep loads,
        .inr ⟨open_, more, ih proper ordered (further unrooted) keeps rest, rfl⟩⟩

theorem chain_of_changedAbove (changed : ChangedAbove fs fs' home)
    (leads : fs.canonical start = .ok names) (within : home <+: names) (rooted : Rooted fs home)
    (keeps : ∀ path ∈ files, fs.Keeps fs' path) (made : chain fs start = .ok files) :
    chain fs' start = .ok files := by
  have same := changed.file?_eq rooted.isFolder within
  rw [chain_eq (FileSystem.canonical_of_same changed.folders leads same)]
  rw [chain_eq leads] at made
  exact chainAlong_of_changedAbove changed (proper_of_mem_upward leads) (upward_ordered names)
    (mem_upward.2 within) rooted keeps made

/-! ## The whole search -/

/-- Where a configuration is found for a folder, it is made of one file for each folder that offers one,
up to the nearest root, and filled up from the nearest file on. What lies above a root can change without
any effect, unless one of these files extends it. -/
theorem find_stops_at_root (found : find fs none start = .ok result) :
    ∃ names folders files configs,
      fs.canonical start = .ok names ∧ chain fs start = .ok files ∧
      Gathers fs names folders files ∧
      List.Forall₂ (fun path config => resolve fs path = .ok config) files configs ∧
      result = { configs.foldl Config.merge .empty with root := some true } ∧
      result.root = some true ∧ result.schema = none ∧ result.parents = none ∧
      ∀ home fs', home <+: names → Rooted fs home → ChangedAbove fs fs' home →
        (∀ path ∈ files, ∀ reached, Reaches fs path reached → fs.Keeps fs' reached) →
        find fs' none start = .ok result := by
  obtain ⟨files, configs, made, some, all, rfl⟩ := discover_eq_ok_iff.1 found
  obtain ⟨names, folders, leads, gathers⟩ := gathers_of_chain made
  obtain ⟨schema, parents⟩ := foldl_merge_empty configs
  refine ⟨names, folders, files, configs, leads, made, gathers, all, rfl, rfl, schema, parents, ?_⟩
  intro home fs' within rooted changed keeps
  have made' : chain fs' start = .ok files :=
    chain_of_changedAbove changed leads within rooted (fun path mem => keeps path mem path .refl) made
  refine discover_eq_ok_iff.2 ⟨files, configs, made', some, ?_, rfl⟩
  exact ((List.forall₂_and_left _ _).2 ⟨keeps, all⟩).imp fun path config each =>
    resolve_of_keeps changed.folders each.1 each.2

end

def sampleAbove : File := ⟨some "\x7brules: \x7bd: 'warn'\x7d\x7d".toList⟩

/-- A folder whose configuration extends another file, in a project whose configuration calls itself the
root, and a configuration above the project. -/
def sampleProject : FileSystem :=
  ⟨[([['p'], ['q'], ".lintelrc.json".toList],
      ⟨some "\x7bextends: ['base.json'], rules: \x7ba: 'error'\x7d, settings: \x7bx: true\x7d\x7d".toList⟩),
    ([['p'], ['q'], "base.json".toList], ⟨some "\x7brules: \x7bc: 'info'\x7d\x7d".toList⟩),
    ([['p'], ".lintelrc.json".toList],
      ⟨some "\x7broot: true, rules: \x7ba: 'off', b: 'warn'\x7d, settings: \x7by: true\x7d\x7d".toList⟩),
    ([".lintelrc.json".toList], sampleAbove)], []⟩

/-- The same project without what lies above it. -/
def sampleBelow : FileSystem := ⟨sampleProject.files.take 3, []⟩

theorem changed_sample : ChangedAbove sampleProject sampleBelow [['p']] := by
  have whole : sampleProject.files =
      sampleBelow.files ++ [([".lintelrc.json".toList], sampleAbove)] := rfl
  have folders : ∀ names, sampleBelow.isFolder names = sampleProject.isFolder names := by
    rintro (_ | ⟨name, names⟩)
    · rfl
    · have last : ((name :: names).isPrefixOf [".lintelrc.json".toList] &&
          name :: names != [".lintelrc.json".toList]) = false := by
        cases names <;> simp
      rw [FileSystem.isFolder, FileSystem.isFolder, whole, List.any_append, List.any_cons, last,
        List.any_nil, Bool.or_false, Bool.or_false]
      rfl
  refine ⟨folders, fun names differs => ⟨[], ⟨List.nil_prefix, by decide⟩, ".lintelrc.json",
    List.mem_cons_self, ?_⟩⟩
  by_contra other
  have absent : (names == [".lintelrc.json".toList]) = false := by simpa using other
  have same : sampleProject.files.lookup names = sampleBelow.files.lookup names := by
    rw [whole, List.lookup_append, List.lookup_cons, absent]
    simp
  rw [FileSystem.file?, FileSystem.file?, folders, same] at differs
  exact differs rfl

/-- What an outcome is said to hold, in a form that can be computed. -/
theorem exists_ok_of_map {outcome : Except ConfigProblem Config} {part : Config → α} {value : α}
    (held : outcome.toOption.map part = some value) :
    ∃ config, outcome = .ok config ∧ part config = value := by
  cases outcome with
  | error problem => cases held
  | ok config => exact ⟨config, rfl, Option.some.inj held⟩

theorem loads_near : ∃ own, load sampleProject ⟨"/p/q/.lintelrc.json".toList⟩ = .ok own ∧
    own.parents = some ["base.json"] :=
  exists_ok_of_map (by decide +kernel)

theorem loads_base : ∃ own, load sampleProject ⟨"/p/q/base.json".toList⟩ = .ok own ∧
    own.parents = none :=
  exists_ok_of_map (by decide +kernel)

theorem loads_far : ∃ own, load sampleProject ⟨"/p/.lintelrc.json".toList⟩ = .ok own ∧
    (own.root, own.parents) = (some true, none) :=
  exists_ok_of_map (by decide +kernel)

theorem rooted_far : Rooted sampleProject [['p']] := by
  obtain ⟨own, loads, parts⟩ := loads_far
  exact ⟨_, own, ⟨[], ".lintelrc.json", _, rfl, rfl, rfl, nofun⟩, loads, congrArg Prod.fst parts⟩

theorem eq_of_reaches [ConfigReader] {reached : FilePath} {own : Config}
    (loads : load fs path = .ok own) (alone : own.parents = none) (reaches : Reaches fs path reached) :
    reached = path := by
  rcases reaches.cases_head with rfl | ⟨parent, ⟨own', names, folder, name, loads', named, -⟩, -⟩
  · rfl
  · cases loads.symm.trans loads'
    cases alone.symm.trans named

/-- Nothing that the files of the folder and the project reach lies above the project. -/
theorem keeps_of_reaches {reached : FilePath}
    (among : path ∈ [⟨"/p/q/.lintelrc.json".toList⟩, ⟨"/p/.lintelrc.json".toList⟩])
    (reaches : Reaches sampleProject path reached) : sampleProject.Keeps sampleBelow reached := by
  rcases List.mem_pair.1 among with rfl | rfl
  · obtain ⟨own, loads, parents⟩ := loads_near
    rcases reaches.cases_head with rfl | ⟨parent, extends_, reaches⟩
    · rintro names leads
      cases leads
      rfl
    · obtain ⟨own', names, folder, name, loads', named, within, mem, rfl⟩ := extends_
      cases loads.symm.trans loads'
      cases parents.symm.trans named
      cases within
      cases List.mem_singleton.1 mem
      obtain ⟨base, loads, alone⟩ := loads_base
      cases eq_of_reaches loads alone reaches
      rintro names leads
      cases leads
      rfl
  · obtain ⟨own, loads, parts⟩ := loads_far
    cases eq_of_reaches loads (congrArg Prod.snd parts) reaches
    rintro names leads
    cases leads
    rfl

theorem find_stops_at_root_sampleProject : ∃ result,
    find sampleProject none ⟨"/p/q".toList⟩ = .ok result ∧
      result.rules.map RuleTable.ids = some ["a", "b", "c"] ∧
      find sampleBelow none ⟨"/p/q".toList⟩ = .ok result := by
  obtain ⟨result, found, rules⟩ : ∃ result, find sampleProject none ⟨"/p/q".toList⟩ = .ok result ∧
      result.rules.map RuleTable.ids = some ["a", "b", "c"] :=
    exists_ok_of_map (by decide +kernel)
  obtain ⟨names, folders, files, configs, leads, made, -, -, -, -, -, -, unchanged⟩ :=
    find_stops_at_root found
  have chained : (chain sampleProject ⟨"/p/q".toList⟩).toOption =
      some [⟨"/p/q/.lintelrc.json".toList⟩, ⟨"/p/.lintelrc.json".toList⟩] := by
    decide +kernel
  rw [made] at chained
  cases chained
  cases leads
  exact ⟨result, found, rules, unchanged [['p']] sampleBelow (by decide) rooted_far changed_sample
    fun path among reached reaches => keeps_of_reaches among reaches⟩

end ScriptLint.Config
