import ScriptLint.FilePath

/-!
# File systems

A finite tree of files and folders without links. A file lies at a list of names counted from the
root; every list of names that leads to a file or to a noted folder is a folder, and no file.

`canonical` follows a path step by step. A step from anything but a folder fails, and so does a step
to a name that is not there; `..` goes back to where the folder lies.
-/

namespace ScriptLint

/-- The names that lead from the root to a file or folder. -/
abbrev Names := List Text

/-- A file by its text; there is none if the bytes of the file are not UTF-8. -/
structure File where
  text : Option Text
  deriving DecidableEq, Repr

structure FileSystem where
  files : List (Names × File)
  folders : List Names

/-- Why a path leads to nothing that can be read. -/
inductive FileProblem where
  | notFound
  | notFolder
  | isFolder
  | notText
  deriving DecidableEq, Repr

namespace FileProblem

def message : FileProblem → String
  | notFound => "No such file or directory (os error 2)"
  | notFolder => "Not a directory (os error 20)"
  | isFolder => "Is a directory (os error 21)"
  | notText => "stream did not contain valid UTF-8"

end FileProblem

/-- The absolute path of a list of names. -/
def FilePath.ofNames (names : Names) : FilePath := ⟨'/' :: joinParts names⟩

namespace FileSystem

def isFolder (fs : FileSystem) (names : Names) : Bool :=
  names.isEmpty || (fs.folders.any fun f => names.isPrefixOf f) ||
    fs.files.any fun f => names.isPrefixOf f.1 && names != f.1

def file? (fs : FileSystem) (names : Names) : Option File :=
  if fs.isFolder names then none else fs.files.lookup names

def contains (fs : FileSystem) (names : Names) : Bool :=
  fs.isFolder names || (fs.file? names).isSome

/-- One part of a path, taken from where the parts before it have led. -/
def follow (fs : FileSystem) (here : Names) (part : Text) : Except FileProblem Names :=
  if ! fs.isFolder here then .error .notFolder
  else if FilePath.isBlankPart part then .ok here
  else if part = ['.', '.'] then .ok here.dropLast
  else if fs.contains (here ++ [part]) then .ok (here ++ [part])
  else .error .notFound

/-- Where a path leads, counted from the root. -/
def canonical (fs : FileSystem) (path : FilePath) : Except FileProblem Names :=
  (FilePath.splitParts path.raw).foldlM fs.follow []

def isFile (fs : FileSystem) (path : FilePath) : Bool :=
  match fs.canonical path with
  | .ok names => (fs.file? names).isSome
  | .error _ => false

/-- Whether a path leads to a file or a folder. -/
def leadsTo (fs : FileSystem) (path : FilePath) : Bool := (fs.canonical path).toBool

/-- The text of the file that a path leads to. -/
def read (fs : FileSystem) (path : FilePath) : Except FileProblem Text :=
  match fs.canonical path with
  | .error problem => .error problem
  | .ok names =>
    match fs.file? names with
    | none => .error .isFolder
    | some file =>
      match file.text with
      | some text => .ok text
      | none => .error .notText

end FileSystem

end ScriptLint
