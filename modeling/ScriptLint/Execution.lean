import ScriptLint.FileSystem
import ScriptLint.Linter

/-!
# Linting many files

Files are independent of one another: the result of a file is what linting it alone gives, and
results come in the order of the files. While files are linted, progress is reported: once for each
file as it is finished, whatever the order in which that happens, and once at the end.
-/

namespace ScriptLint

/-- A file in memory. -/
structure SourceFile where
  path : FilePath
  text : Text
  deriving DecidableEq, Repr

structure FileResult where
  path : FilePath
  /-- What was fixed, and then what is left, all located in the file. -/
  diagnostics : List Diagnostic
  /-- The new text, if the file has changed. -/
  fixedOutput : Option Text
  passes : Nat
  applied : Nat
  /-- Why the file could not be read, or the failure of a rule. -/
  error : Option LintError
  deriving DecidableEq, Repr

namespace FileResult

def ofOutcome (path : FilePath) (o : Outcome) : FileResult :=
  ⟨path, o.allDiagnostics.map fun d => d.inFile path, if o.changed then some o.output else none,
    o.passes, o.applied, o.error⟩

def failed (path : FilePath) (error : LintError) : FileResult := ⟨path, [], none, 0, 0, some error⟩

def unfixedErrors (r : FileResult) : Nat := r.diagnostics.countP fun d => d.isError && d.isUnfixed

def hasUnfixedErrors (r : FileResult) : Bool := r.diagnostics.any fun d => d.isError && d.isUnfixed

end FileResult

structure Summary where
  files : Nat
  failed : Nat
  diagnostics : Nat
  unfixedErrors : Nat
  applied : Nat
  deriving DecidableEq, Repr

namespace Summary

/-- The sum of a count over all results. -/
def total (count : FileResult → Nat) (results : List FileResult) : Nat :=
  results.foldr (fun r n => count r + n) 0

def ofResults (results : List FileResult) : Summary where
  files := results.length
  failed := results.countP fun r => r.error.isSome
  diagnostics := total (fun r => r.diagnostics.length) results
  unfixedErrors := total FileResult.unfixedErrors results
  applied := total FileResult.applied results

/-- Nonzero if an error is left or a file has failed. -/
def exitCode (s : Summary) : Nat := if s.unfixedErrors = 0 ∧ s.failed = 0 then 0 else 1

end Summary

/-- How far linting has come. The last report names no file. -/
structure Progress where
  total : Nat
  completed : Nat
  current : Option FilePath
  deriving DecidableEq, Repr

namespace Progress

/-- The reports for files that are finished in the given order, with a number already completed. -/
def reports (total completed : Nat) : (finished : List FilePath) → List Progress
  | [] => [⟨total, total, none⟩]
  | path :: rest => ⟨total, completed + 1, some path⟩ :: reports total (completed + 1) rest

/-- The part of the files that is completed; all, if there are no files. -/
def ratio (p : Progress) : Binary64 :=
  let (num, den) := if p.total = 0 then (1, 1) else (p.completed, p.total)
  (Binary64.ofRatio false num den).getD (Binary64.zero false)

/-- The ratio with four places after the point. -/
def ratioText (p : Progress) : String := p.ratio.fixed 4

end Progress

structure Execution where
  /-- Whether edits are made. -/
  fix : Bool
  threads : Option Nat
  reportsProgress : Bool
  linter : Linter
  rules : List ConfiguredRule

namespace Execution

def lintText (e : Execution) (text : Text) : Outcome :=
  if e.fix then e.linter.verifyAndFix e.rules text else e.linter.verify e.rules text

def lintSource (e : Execution) (file : SourceFile) : FileResult :=
  .ofOutcome file.path (e.lintText file.text)

def lintFile (e : Execution) (fs : FileSystem) (path : FilePath) : FileResult :=
  match fs.read path with
  | .ok text => .ofOutcome path (e.lintText text)
  | .error problem => .failed path (.io path problem.message)

def lintSources (e : Execution) (files : List SourceFile) : List FileResult :=
  files.map e.lintSource

def lintFiles (e : Execution) (fs : FileSystem) (paths : List FilePath) : List FileResult :=
  paths.map (e.lintFile fs)

/-- The progress reports for files that are finished in the given order. -/
def progress (e : Execution) (finished : List FilePath) : List Progress :=
  if e.reportsProgress then Progress.reports finished.length 0 finished else []

/-- The settings of the execution in one line. -/
def listing (e : Execution) : String :=
  let threads := match e.threads with
    | some n => "Some(" ++ toString n ++ ")"
    | none => "None"
  "ExecutionContext \x7b fix: " ++ toString e.fix ++ ", thread_pool_size: " ++ threads ++
    ", progress_callback: " ++ toString e.reportsProgress ++ " \x7d"

end Execution

end ScriptLint
