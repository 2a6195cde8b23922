import ScriptLint.Config.Inheritance

/-!
# Finding configuration files

Without a path of their own, configurations are searched from a folder upwards: each folder gives at
most one file, and the search ends at the first file that calls itself the root. The nearest file
comes first, and the others fill it up.
-/

namespace ScriptLint.Config

/-- A folder and all folders above it, the nearest first. -/
def upward (names : Names) : List Names :=
  (List.range (names.length + 1)).reverse.map fun count => names.take count

/-- The configuration file of a folder. -/
def fileIn? (fs : FileSystem) (folder : Names) : Option FilePath :=
  (fileNames.map fun name => FilePath.ofNames (folder ++ [name.toList])).find? fs.isFile

section
variable [ConfigReader]

/-- The configuration files of folders, up to the first one that calls itself the root. -/
def chainAlong (fs : FileSystem) : List Names → Except ConfigProblem (List FilePath)
  | [] => .ok []
  | folder :: folders =>
    match fileIn? fs folder with
    | none => chainAlong fs folders
    | some path =>
      match load fs path with
      | .error problem => .error problem
      | .ok config =>
        if config.root = some true then .ok [path]
        else (chainAlong fs folders).map (path :: ·)

/-- The configuration files that count for a folder, the nearest first. -/
def chain (fs : FileSystem) (start : FilePath) : Except ConfigProblem (List FilePath) :=
  match fs.canonical start with
  | .error cause => .error (.badStart cause)
  | .ok names => chainAlong fs (upward names)

/-- The nearest configuration file. -/
def nearest? (fs : FileSystem) (start : FilePath) : Except ConfigProblem (Option FilePath) :=
  (chain fs start).map List.head?

/-- Fills a configuration up from files and all that they extend. -/
def mergeFiles (fs : FileSystem) : Config → List FilePath → Except ConfigProblem Config
  | config, [] => .ok config
  | config, path :: paths =>
    match resolve fs path with
    | .error problem => .error problem
    | .ok next => mergeFiles fs (config.merge next) paths

/-- The configuration that counts for a folder. -/
def discover (fs : FileSystem) (start : FilePath) : Except ConfigProblem Config :=
  match chain fs start with
  | .error problem => .error problem
  | .ok [] => .error .noneFound
  | .ok paths => (mergeFiles fs .empty paths).map fun config => { config with root := some true }

/-- The configuration of a file that was asked for, and without one the configuration that counts for
the folder. -/
def find (fs : FileSystem) (chosen : Option FilePath) (start : FilePath) :
    Except ConfigProblem Config :=
  match chosen with
  | some path => if fs.leadsTo path then resolve fs path else .error (.absent path)
  | none => discover fs start

/-- The configuration that `find` gives, and the empty one if it gives none. -/
def findOrEmpty (fs : FileSystem) (chosen : Option FilePath) (start : FilePath) : Config :=
  (find fs chosen start).toOption.getD .empty

end

end ScriptLint.Config
