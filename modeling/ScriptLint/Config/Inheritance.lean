import ScriptLint.Config.Files

/-!
# Configurations that extend others

A configuration file is filled up from the files it names, in their order, and each of these from the
files that it names itself. A file that is reached again while it is being filled up closes a circle,
which is an error; a file that two others share is none.

A chain of files without a circle is at most as long as there are files, so `resolve` follows
sufficiently many steps for every file system.
-/

namespace ScriptLint.Config

/-- Where the files lie that a configuration extends. -/
def parentPaths (path : FilePath) (config : Config) : Except ConfigProblem (List FilePath) :=
  match config.parents with
  | none => .ok []
  | some names =>
    match path.parent? with
    | none => .error (.noFolder path)
    | some folder => .ok (names.map fun name => folder.join (.ofString name))

/-- Fills a configuration up from files, one after the other. -/
def fillFrom (resolveOne : FilePath → Except ConfigProblem Config) (fs : FileSystem) :
    Config → List FilePath → Except ConfigProblem Config
  | config, [] => .ok config
  | config, path :: paths =>
    if fs.isFile path then
      match resolveOne path with
      | .ok parent => fillFrom resolveOne fs (config.merge parent) paths
      | .error problem => .error problem
    else .error (.parentAbsent path)

section
variable [ConfigReader]

/-- The configuration of a file with all that it extends. The files in `visiting` are those whose
configurations are being filled up. -/
def resolveWithin (fs : FileSystem) : Nat → (visiting : List Names) → FilePath →
    Except ConfigProblem Config
  | 0, _, path => .error (.circular path)
  | steps + 1, visiting, path =>
    match fs.canonical path with
    | .error cause => .error (.unreachable path cause)
    | .ok names =>
      if names ∈ visiting then .error (.circular path)
      else
        match load fs path with
        | .error problem => .error problem
        | .ok own =>
          match parentPaths path own with
          | .error problem => .error problem
          | .ok paths => fillFrom (resolveWithin fs steps (names :: visiting)) fs own paths

def resolve (fs : FileSystem) (path : FilePath) : Except ConfigProblem Config :=
  resolveWithin fs (fs.files.length + 1) [] path

end

end ScriptLint.Config
