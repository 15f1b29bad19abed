import DialogueScript.CommandLine.Options
import DialogueScript.Disk.Tree
import DialogueScript.Settings.File
import DialogueScript.Settings.Layers

/-!
# What a program starts with

Command line, environment and disk fix at the start where settings come from: the cap of the command line, the explicit
settings file, and the user's own settings file. `Startup.load` reads the layers from a disk, and `Startup.watchedFiles`
lists the files that may change them. A file that cannot be loaded counts as one that is not there.
-/

namespace DialogueScript

/-- The environment variables that matter. -/
structure Environment where
  home : Option String
  configHome : Option String
  deriving DecidableEq, Repr

/-- The directory of the user's settings: the one the environment names by an absolute path, else `.config` in the home
directory. -/
def Environment.configDirectory? (e : Environment) : Option Path :=
  match (e.configHome.map Path.ofText).filter Path.isAbsolute with
  | some p => some p
  | none => e.home.bind fun text => if text.isEmpty then none else some ((Path.ofText text).join (.ofText ".config"))

/-- The user's own settings file. -/
def Environment.userFile? (e : Environment) : Option Path :=
  e.configDirectory?.map fun dir => (dir.join (.ofText "tdls")).join (.ofText "config.toml")

/-! ## Settings files -/

/-- Why a settings file that is there cannot be loaded. -/
inductive FileError where
  | unreadable (path : Path)
  | malformed (path : Path)
  deriving DecidableEq, Repr

/-- The message for a settings file that cannot be loaded. -/
def FileError.message : FileError → String
  | .unreadable p => "Failed to read config file: " ++ p.text
  | .malformed p => "Failed to parse config file: " ++ p.text

/-- The settings of a file; a file that is not there has none. -/
def FileSettings.load (d : Disk) (p : Path) : Except FileError (Option FileSettings) :=
  match d.readText p with
  | .error .missing => .ok none
  | .error .notText => .error (.unreadable p)
  | .ok text =>
    match FileSettings.parse? text with
    | some settings => .ok (some settings)
    | none => .error (.malformed p)

/-- The cap that a file sets. -/
def FileSettings.cap? (d : Disk) (p : Path) : Option Nat :=
  match FileSettings.load d p with
  | .ok (some settings) => settings.maxNumberOfProblems
  | _ => none

/-! ## Startup -/

/-- The name of the settings file of a workspace. -/
def workspaceFileName : String := ".tdls.toml"

/-- Where the settings come from. -/
structure Startup where
  cli : Option Nat
  configFile : Option Path
  userFile : Option Path
  logLevel : String
  deriving DecidableEq, Repr

/-- Why a program cannot start. -/
inductive StartupError where
  | configNotFound (path : Path)
  deriving DecidableEq, Repr

/-- The message for a program that cannot start. -/
def StartupError.message : StartupError → String
  | .configNotFound p => "Config file not found: " ++ p.text

namespace Startup

/-- The explicit settings file by its absolute path without detours. It must be a file. -/
def explicitFile (d : Disk) : Option String → Except StartupError (Option Path)
  | none => .ok none
  | some text =>
    match d.fileAt? (.ofText text) with
    | some l => .ok (some l.path)
    | none => .error (.configNotFound (.ofText text))

/-- What the options, the environment and the disk fix. -/
def ofOptions (d : Disk) (e : Environment) (o : Options) : Except StartupError Startup := do
  let configFile ← explicitFile d o.config
  pure {
    cli := o.maxNumberOfProblems
    configFile := configFile
    userFile := e.userFile?
    logLevel := o.logLevel }

/-- The settings file of a workspace. -/
def workspaceFile (root : Path) : Path := root.join (.ofText workspaceFileName)

/-- The files that may change the settings. -/
def watchedFiles (s : Startup) (root : Option Path) : List Path :=
  s.userFile.toList ++ (root.map workspaceFile).toList ++ s.configFile.toList

/-- The layers as the files on a disk and the command line set them; there is no client yet. -/
def load (s : Startup) (d : Disk) (root : Option Path) : Layers :=
  { userFile := s.userFile.bind (FileSettings.cap? d)
    workspaceFile := (root.map workspaceFile).bind (FileSettings.cap? d)
    configFile := s.configFile.bind (FileSettings.cap? d)
    cli := s.cli
    client := none }

end Startup

end DialogueScript
