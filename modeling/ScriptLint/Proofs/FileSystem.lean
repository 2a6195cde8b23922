import Mathlib.Data.List.TakeWhile
import ScriptLint.FileSystem

/-!
# Where paths lead

A path that leads to a file passes through folders only, so it depends on the folders and on that one
file (`canonical_of_same`). The place it leads to is made of proper names, and the path that is made of
these names leads there as well (`isFile_ofNames`).
-/

namespace ScriptLint

/-! ## The parts of a path -/

namespace FilePath

variable {part : Text} {parts : List Text} {raw : Text}

theorem splitParts_ne_nil (raw : Text) : splitParts raw ≠ [] := by
  cases raw with
  | nil => exact List.cons_ne_nil [] []
  | cons c cs =>
    unfold splitParts Text.splitAt
    split
    · exact List.cons_ne_nil _ _
    · split <;> exact List.cons_ne_nil _ _

theorem splitParts_cons_slash (raw : Text) : splitParts ('/' :: raw) = [] :: splitParts raw := by
  have some := splitParts_ne_nil raw
  unfold splitParts at some ⊢
  rw [Text.splitAt]
  split
  case h_1 none => exact absurd none some
  case h_2 first rest split => rw [if_pos rfl, split]

theorem splitParts_append_slash (plain : '/' ∉ part) (raw : Text) :
    splitParts (part ++ '/' :: raw) = part :: splitParts raw := by
  induction part with
  | nil => exact splitParts_cons_slash raw
  | cons c cs ih =>
    obtain ⟨ne, plain⟩ := List.ne_and_not_mem_of_not_mem_cons plain
    have rest := ih plain
    unfold splitParts at rest ⊢
    rw [List.cons_append, Text.splitAt, rest]
    simp only [if_neg (Ne.symm ne)]

theorem splitParts_plain (plain : '/' ∉ part) : splitParts part = [part] := by
  induction part with
  | nil => rfl
  | cons c cs ih =>
    obtain ⟨ne, plain⟩ := List.ne_and_not_mem_of_not_mem_cons plain
    have rest := ih plain
    unfold splitParts at rest ⊢
    rw [Text.splitAt, rest]
    simp only [if_neg (Ne.symm ne)]

theorem splitParts_joinParts (some : parts ≠ []) (plain : ∀ part ∈ parts, '/' ∉ part) :
    splitParts (joinParts parts) = parts := by
  induction parts with
  | nil => exact absurd rfl some
  | cons part parts ih =>
    obtain ⟨first, rest⟩ := List.forall_mem_cons.1 plain
    cases parts with
    | nil => exact splitParts_plain first
    | cons next parts =>
      rw [joinParts, splitParts_append_slash first, ih (List.cons_ne_nil next parts) rest]
      exact List.cons_ne_nil next parts

theorem plain_of_mem_splitParts (mem : part ∈ splitParts raw) : '/' ∉ part := by
  unfold splitParts at mem
  induction raw generalizing part with
  | nil =>
    rw [Text.splitAt, List.mem_singleton] at mem
    exact mem ▸ List.not_mem_nil
  | cons c cs ih =>
    unfold Text.splitAt at mem
    split at mem
    case h_1 none => exact absurd none (splitParts_ne_nil cs)
    case h_2 first rest split =>
      rw [split] at ih
      split at mem
      case isTrue slash =>
        rcases List.mem_cons.1 mem with rfl | mem
        · exact List.not_mem_nil
        · exact ih mem
      case isFalse other =>
        rcases List.mem_cons.1 mem with rfl | mem
        · exact List.not_mem_cons_of_ne_of_not_mem (Ne.symm other) (ih List.mem_cons_self)
        · exact ih (List.mem_cons_of_mem first mem)

end FilePath

namespace FileSystem

variable {fs fs' : FileSystem} {here next front rest names : Names} {part : Text} {path : FilePath}
  {file : File}

/-! ## Files and folders -/

theorem isFolder_nil (fs : FileSystem) : fs.isFolder [] = true := rfl

theorem isFolder_iff :
    fs.isFolder names = true ↔ names = [] ∨ (∃ folder ∈ fs.folders, names <+: folder) ∨
      ∃ entry ∈ fs.files, names <+: entry.1 ∧ names ≠ entry.1 := by
  simp [isFolder, or_assoc]

/-- A file is no folder, and it is one of the files that the system lists. -/
theorem listed_of_file? (there : fs.file? names = some file) :
    fs.isFolder names = false ∧ (names, file) ∈ fs.files := by
  unfold file? at there
  cases folder : fs.isFolder names with
  | true => simp [folder] at there
  | false =>
    obtain ⟨before, after, parts, -⟩ := List.lookup_eq_some_iff.1 (by simpa [folder] using there)
    exact ⟨rfl, parts ▸ List.mem_append_cons_self⟩

theorem file?_of_isFolder (folder : fs.isFolder names = true) : fs.file? names = none := by
  simp [file?, folder]

theorem file?_root (fs : FileSystem) : fs.file? [] = none := rfl

theorem contains_of_isFolder (folder : fs.isFolder names = true) : fs.contains names = true := by
  simp [contains, folder]

theorem contains_of_file? (there : fs.file? names = some file) : fs.contains names = true := by
  simp [contains, there]

/-- Whatever is there lies in folders. -/
theorem isFolder_of_contains (there : fs.contains (front ++ rest) = true) (some : rest ≠ []) :
    fs.isFolder front = true := by
  have shorter : front <+: front ++ rest := List.prefix_append front rest
  cases folder : fs.isFolder (front ++ rest) with
  | true =>
    refine isFolder_iff.2 ?_
    rcases isFolder_iff.1 folder with none | ⟨folder, mem, within⟩ | ⟨entry, mem, within, ne⟩
    · exact absurd (List.append_eq_nil_iff.1 none).2 some
    · exact .inr (.inl ⟨folder, mem, shorter.trans within⟩)
    · refine .inr (.inr ⟨entry, mem, shorter.trans within, fun eq => ?_⟩)
      have le := List.IsPrefix.length_le (eq ▸ within : front ++ rest <+: front)
      rw [List.length_append] at le
      exact some (List.eq_nil_of_length_eq_zero (by omega))
  | false =>
    obtain ⟨file, there⟩ := Option.isSome_iff_exists.1 (by simpa [contains, folder] using there)
    refine isFolder_iff.2 (.inr (.inr ⟨_, (listed_of_file? there).2, shorter, fun eq => ?_⟩))
    exact some (List.append_right_eq_self.1 eq.symm)

theorem contains_front (there : fs.contains (front ++ rest) = true) : fs.contains front = true := by
  cases rest with
  | nil => rwa [List.append_nil] at there
  | cons name rest =>
    exact contains_of_isFolder (isFolder_of_contains there (List.cons_ne_nil name rest))

/-! ## Steps -/

/-- A part of a path that can be the name of a file or folder. -/
structure IsName (part : Text) : Prop where
  filled : FilePath.isBlankPart part = false
  down : part ≠ ['.', '.']
  plain : '/' ∉ part

/-- A step starts at a folder, and stays there, goes back or goes to something that is there. -/
theorem follow_eq_ok_iff :
    fs.follow here part = .ok next ↔ fs.isFolder here = true ∧
      (FilePath.isBlankPart part = true ∧ next = here ∨
        FilePath.isBlankPart part = false ∧ part = ['.', '.'] ∧ next = here.dropLast ∨
        FilePath.isBlankPart part = false ∧ part ≠ ['.', '.'] ∧
          fs.contains (here ++ [part]) = true ∧ next = here ++ [part]) := by
  unfold follow
  cases fs.isFolder here with
  | false => simp
  | true =>
    cases FilePath.isBlankPart part with
    | true => simp [eq_comm (a := next)]
    | false =>
      by_cases up : part = ['.', '.']
      · simp [up, eq_comm (a := next)]
      · cases fs.contains (here ++ [part]) <;> simp [up, eq_comm (a := next)]

theorem foldlM_follow_cons_eq_ok_iff {parts : List Text} :
    (part :: parts).foldlM fs.follow here = .ok names ↔
      ∃ next, fs.follow here part = .ok next ∧ parts.foldlM fs.follow next = .ok names := by
  rw [List.foldlM_cons]
  cases fs.follow here part with
  | error problem => simp [bind, Except.bind]
  | ok next => simp [bind, Except.bind]

theorem follow_name (name : IsName part) (there : fs.contains (here ++ [part]) = true) :
    fs.follow here part = .ok (here ++ [part]) :=
  follow_eq_ok_iff.2 ⟨isFolder_of_contains there (List.cons_ne_nil part []),
    .inr (.inr ⟨name.filled, name.down, there, rfl⟩)⟩

theorem follow_name_inv (name : IsName part) (leads : fs.follow here part = .ok next) :
    next = here ++ [part] := by
  obtain ⟨-, ⟨blank, -⟩ | ⟨-, up, -⟩ | ⟨-, -, -, rfl⟩⟩ := follow_eq_ok_iff.1 leads
  · cases name.filled.symm.trans blank
  · exact absurd up name.down
  · rfl

/-- Names that lead somewhere lead where they say. -/
theorem foldlM_follow_names (proper : ∀ name ∈ rest, IsName name)
    (there : fs.contains (here ++ rest) = true) :
    rest.foldlM fs.follow here = .ok (here ++ rest) := by
  induction rest generalizing here with
  | nil => rw [List.append_nil]; rfl
  | cons name rest ih =>
    obtain ⟨first, proper⟩ := List.forall_mem_cons.1 proper
    rw [List.append_cons] at there ⊢
    exact foldlM_follow_cons_eq_ok_iff.2
      ⟨here ++ [name], follow_name first (contains_front there), ih proper there⟩

theorem eq_of_foldlM_follow_names (proper : ∀ name ∈ rest, IsName name)
    (leads : rest.foldlM fs.follow here = .ok names) : names = here ++ rest := by
  induction rest generalizing here with
  | nil =>
    cases leads
    rw [List.append_nil]
  | cons name rest ih =>
    obtain ⟨first, proper⟩ := List.forall_mem_cons.1 proper
    obtain ⟨next, step, leads⟩ := foldlM_follow_cons_eq_ok_iff.1 leads
    rw [List.append_cons, ← follow_name_inv first step]
    exact ih proper leads

theorem proper_of_foldlM_follow {parts : List Text} (plain : ∀ part ∈ parts, '/' ∉ part)
    (proper : ∀ name ∈ here, IsName name) (leads : parts.foldlM fs.follow here = .ok names) :
    ∀ name ∈ names, IsName name := by
  induction parts generalizing here with
  | nil =>
    cases leads
    exact proper
  | cons part parts ih =>
    obtain ⟨first, plain⟩ := List.forall_mem_cons.1 plain
    obtain ⟨next, step, leads⟩ := foldlM_follow_cons_eq_ok_iff.1 leads
    refine ih plain ?_ leads
    obtain ⟨-, ⟨-, rfl⟩ | ⟨-, -, rfl⟩ | ⟨filled, down, -, rfl⟩⟩ := follow_eq_ok_iff.1 step
    · exact proper
    · exact fun name mem => proper name (List.dropLast_subset _ mem)
    · refine List.forall_mem_append.2 ⟨proper, List.forall_mem_singleton.2 ⟨filled, down, first⟩⟩

/-! ## Paths -/

/-- Without a step to take back, a path stays where it starts. -/
theorem canonical_of_parent?_eq_none (none : path.parent? = none) : fs.canonical path = .ok [] := by
  have stays : ∀ parts : List Text, (∀ part ∈ parts, FilePath.isBlankPart part) →
      parts.foldlM fs.follow [] = .ok [] := by
    intro parts blank
    induction parts with
    | nil => rfl
    | cons part parts ih =>
      obtain ⟨first, rest⟩ := List.forall_mem_cons.1 blank
      exact foldlM_follow_cons_eq_ok_iff.2
        ⟨[], follow_eq_ok_iff.2 ⟨isFolder_nil fs, .inl ⟨first, rfl⟩⟩, ih rest⟩
  unfold FilePath.parent? at none
  unfold canonical
  split at none
  case h_1 empty => rw [empty]; rfl
  case h_2 first rest parts =>
    split at none
    case h_1 trimmed =>
      rw [parts]
      refine stays _ (List.forall_mem_cons.2 ⟨?_, fun part mem => ?_⟩)
      · by_cases empty : first = []
        · rw [empty]
          rfl
        · simp [empty] at none
      · have all := List.dropWhile_eq_nil_iff.1 (List.reverse_eq_nil_iff.1 trimmed)
        exact all part (List.mem_reverse.2 mem)
    case h_2 => cases none

theorem proper_of_canonical (leads : fs.canonical path = .ok names) : ∀ name ∈ names, IsName name :=
  proper_of_foldlM_follow (fun _ mem => FilePath.plain_of_mem_splitParts mem)
    (List.forall_mem_nil _) leads

/-- The parts of a path made of names are an empty one and these names. -/
theorem canonical_ofNames_eq (fs : FileSystem) (proper : ∀ name ∈ names, IsName name) :
    fs.canonical (.ofNames names) = names.foldlM fs.follow [] := by
  have stays : fs.follow [] [] = .ok [] := rfl
  show (FilePath.splitParts ('/' :: FilePath.joinParts names)).foldlM fs.follow [] = _
  rw [FilePath.splitParts_cons_slash, List.foldlM_cons, stays]
  cases names with
  | nil => rfl
  | cons name names =>
    rw [FilePath.splitParts_joinParts (List.cons_ne_nil name names) fun part mem => (proper part mem).plain]
    rfl

theorem canonical_ofNames (proper : ∀ name ∈ names, IsName name) (there : fs.contains names = true) :
    fs.canonical (.ofNames names) = .ok names := by
  rw [canonical_ofNames_eq fs proper]
  exact foldlM_follow_names proper there

theorem isFile_ofNames (fs : FileSystem) (proper : ∀ name ∈ names, IsName name) :
    fs.isFile (.ofNames names) = (fs.file? names).isSome := by
  cases there : fs.file? names with
  | some file => simp [isFile, canonical_ofNames proper (contains_of_file? there), there]
  | none =>
    unfold isFile
    split
    case h_1 names' leads =>
      rw [canonical_ofNames_eq fs proper] at leads
      cases eq_of_foldlM_follow_names proper leads
      simp [there]
    case h_2 => rfl

/-! ## Changed files -/

/-- A path that leads to something unchanged leads there still, as long as no folder comes or goes. -/
theorem canonical_of_same (folders : ∀ names, fs'.isFolder names = fs.isFolder names)
    (leads : fs.canonical path = .ok names) (same : fs'.file? names = fs.file? names) :
    fs'.canonical path = .ok names := by
  unfold canonical at leads ⊢
  generalize FilePath.splitParts path.raw = parts at leads ⊢
  generalize ([] : Names) = here at leads ⊢
  induction parts generalizing here with
  | nil => exact leads
  | cons part parts ih =>
    obtain ⟨next, step, leads⟩ := foldlM_follow_cons_eq_ok_iff.1 leads
    refine foldlM_follow_cons_eq_ok_iff.2 ⟨next, ?_, ih next leads⟩
    -- Behind a step that is not the last one lies a folder; the last one ends at `names`.
    have kept : fs'.contains next = fs.contains next := by
      cases parts with
      | nil =>
        cases leads
        rw [contains, contains, folders, same]
      | cons part parts =>
        obtain ⟨_, step, -⟩ := foldlM_follow_cons_eq_ok_iff.1 leads
        have folder := (follow_eq_ok_iff.1 step).1
        rw [contains_of_isFolder folder, contains_of_isFolder ((folders next).trans folder)]
    obtain ⟨folder, cases⟩ := follow_eq_ok_iff.1 step
    refine follow_eq_ok_iff.2 ⟨(folders here).trans folder, ?_⟩
    obtain stays | up | ⟨filled, down, there, rfl⟩ := cases
    · exact .inl stays
    · exact .inr (.inl up)
    · exact .inr (.inr ⟨filled, down, kept.trans there, rfl⟩)

/-- What a path leads to in the first system is the same in the second one. -/
def Keeps (fs fs' : FileSystem) (path : FilePath) : Prop :=
  ∀ names, fs.canonical path = .ok names → fs'.file? names = fs.file? names

theorem isFile_of_same (folders : ∀ names, fs'.isFolder names = fs.isFolder names)
    (leads : fs.canonical path = .ok names) (same : fs'.file? names = fs.file? names) :
    fs'.isFile path = fs.isFile path := by
  simp only [isFile, leads, canonical_of_same folders leads same, same]

theorem read_of_same (folders : ∀ names, fs'.isFolder names = fs.isFolder names)
    (leads : fs.canonical path = .ok names) (same : fs'.file? names = fs.file? names) :
    fs'.read path = fs.read path := by
  simp only [read, leads, canonical_of_same folders leads same, same]

end FileSystem

end ScriptLint
