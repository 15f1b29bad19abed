import DialogueScript.CommandLine.Outcome
import DialogueScript.CommandLine.Reader
import DialogueScript.Script
import DialogueScript.Startup

/-!
# The checker of files

The checker validates files in the order they are given and prints one line for each problem. It stops at the first file
that cannot be read. It fails when that happens or when an error was printed; warnings alone do not make it fail.
-/

namespace DialogueScript

namespace Checker

/-- The line printed for a problem: line and column are those of the start of its range, counted from one in 32 bits. -/
def reportLine (file : Path) (d : Diagnostic) : String :=
  file.text ++ ":" ++ toString (d.range.start.line + 1) ++ ":" ++ toString (d.range.start.character + 1) ++ ": " ++
    d.severity.word ++ ": " ++ d.message ++ "\n"

/-- The problems of a file with the given content. -/
def check (content : List Char) (cap : Nat) : List Diagnostic := validate (dropMark content) cap

/-- Checks files in order: the problems by file, and the first file that cannot be read. -/
def checkFiles (d : Disk) (cap : Nat) : List Path → List (Path × List Diagnostic) × Option Path
  | [] => ([], none)
  | file :: rest =>
    match d.readText file with
    | .error _ => ([], some file)
    | .ok content =>
      let (checked, unread) := checkFiles d cap rest
      ((file, check content cap) :: checked, unread)

/-- The lines printed for checked files. -/
def report (checked : List (Path × List Diagnostic)) : String :=
  String.join (checked.flatMap fun (file, ds) => ds.map (reportLine file))

/-- The outcome for checked files. -/
def conclude (checked : List (Path × List Diagnostic)) (unread : Option Path) : Outcome :=
  let failed := unread.isSome || checked.any fun (_, ds) => Diagnostic.count .error ds != 0
  { output := report checked
    exitCode := if failed then 1 else 0
    failure := unread.map fun file => "Failed to read " ++ file.text }

/-- A run of the checker with a startup and some files: the working directory is the workspace. -/
def runWith (d : Disk) (s : Startup) (files : List Path) : Outcome :=
  let cap := (s.load d (some (Location.path d.workingDirectory))).cap
  let (checked, unread) := checkFiles d cap files
  conclude checked unread

/-- A run of the checker. -/
def run (d : Disk) (e : Environment) (args : List String) : Outcome :=
  match CommandLine.read .checker args with
  | .error stop => stop.outcome .checker
  | .ok (options, files) =>
    match Startup.ofOptions d e options with
    | .error error => .failed error.message
    | .ok startup => runWith d startup (files.map Path.ofText)

end Checker

end DialogueScript
