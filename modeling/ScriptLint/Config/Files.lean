import ScriptLint.Config.Json5
import ScriptLint.Config.Toml.Reader
import ScriptLint.FileSystem
import ScriptLint.LintError

/-!
# Configuration files

A configuration file is written in the notation that its name asks for. How a text in a notation is read
is a parameter (`ConfigReader`). `Config.load` reads one file by itself: what it extends stays a list of
paths.
-/

namespace ScriptLint

/-- The notations of configuration files. -/
inductive ConfigNotation where
  | json
  | toml
  deriving DecidableEq, Repr

namespace ConfigNotation

def name : ConfigNotation → String
  | json => "JSON"
  | toml => "TOML"

/-- Only the extension `toml` asks for TOML. -/
def ofPath (path : FilePath) : ConfigNotation :=
  if path.extension? = some "toml".toList then .toml else .json

end ConfigNotation

/-- What the texts in each notation say, if they are well formed. -/
class ConfigReader where
  read? : ConfigNotation → Text → Option Wire

/-- The readers that the program is run with. -/
instance : ConfigReader where
  read?
    | .json => Json5.parse?
    | .toml => Toml.parse?

/-- Why no configuration comes out of the files. -/
inductive ConfigProblem where
  /-- The search cannot begin. -/
  | badStart (cause : FileProblem)
  | noneFound
  /-- A file that was asked for is not there. -/
  | absent (path : FilePath)
  | unreachable (path : FilePath) (cause : FileProblem)
  | unreadable (path : FilePath) (cause : FileProblem)
  | malformed (path : FilePath)
  | parentAbsent (path : FilePath)
  | noFolder (path : FilePath)
  | circular (path : FilePath)
  deriving DecidableEq, Repr

namespace Config

/-- The names of configuration files; an earlier one hides the later ones in a folder. -/
def fileNames : List String :=
  [".lintelrc.json", ".lintelrc.jsonc", "lintel.jsonc", "lintel.json", "lintel.toml"]

end Config

namespace ConfigProblem

def message : ConfigProblem → String
  | badStart cause => "Invalid path: " ++ cause.message
  | noneFound => "No config file found (" ++ ", ".intercalate Config.fileNames ++ ")"
  | absent path => "Config file not found: " ++ path.toString
  | unreachable path cause => "Config file not found: " ++ path.toString ++ ": " ++ cause.message
  | unreadable path cause =>
    "Cannot read config file '" ++ path.toString ++ "': " ++ cause.message
  | malformed path =>
    "Invalid " ++ (ConfigNotation.ofPath path).name ++ " in '" ++ path.toString ++ "'"
  | parentAbsent path => "Extended config not found: " ++ path.toString
  | noFolder path => "Cannot determine parent directory of '" ++ path.toString ++ "'"
  | circular path => "Circular extends involving '" ++ path.toString ++ "'"

def toLintError (problem : ConfigProblem) : LintError := .config problem.message

end ConfigProblem

namespace Config

/-- The configuration that a file holds by itself. -/
def load [ConfigReader] (fs : FileSystem) (path : FilePath) : Except ConfigProblem Config :=
  match fs.read path with
  | .error cause => .error (.unreadable path cause)
  | .ok text =>
    match (ConfigReader.read? (.ofPath path) text).bind (ofWire? false) with
    | some config => .ok config
    | none => .error (.malformed path)

end Config

end ScriptLint
