/-!
# Command-line options

Two programs share three options with values; the checker also takes files. Reading a command line ends with the
options, with a request for help or the version, or with a usage error.
-/

namespace DialogueScript

/-- The programs that have a command line. -/
inductive Program where
  /-- The language server. -/
  | server
  /-- The checker of files. -/
  | checker
  deriving DecidableEq, Repr

/-- The name of a program. -/
def Program.name : Program → String
  | .server => "tdls"
  | .checker => "tdls-check"

/-- Whether a program takes files. -/
def Program.takesFiles : Program → Bool
  | .server => false
  | .checker => true

/-- What the options say. -/
structure Options where
  maxNumberOfProblems : Option Nat
  config : Option String
  logLevel : String
  deriving DecidableEq, Repr

/-- How a command line can be wrong. -/
inductive UsageError where
  /-- An argument that is no option and not wanted as a file. -/
  | unknownArgument
  /-- A missing or empty value. -/
  | invalidValue
  /-- A value that is not of the option's type. -/
  | valueValidation
  /-- An option given twice. -/
  | argumentConflict
  /-- A value joined to an option that takes none. -/
  | tooManyValues
  /-- No file where one is needed. -/
  | missingRequiredArgument
  deriving DecidableEq, Repr

/-- Why a program ends before it begins. -/
inductive Stop where
  | help
  | version
  | usage (error : UsageError)
  deriving DecidableEq, Repr

/-- The options that take a value. -/
inductive OptionName where
  | maxNumberOfProblems
  | config
  | logLevel
  deriving DecidableEq, Repr

/-- The version of both programs. -/
def version : String := "0.1.0"

/-- What `--version` prints. -/
def Program.versionText (p : Program) : String := p.name ++ " " ++ version ++ "\n"

/-- What a program is for. -/
def Program.purpose : Program → String
  | .server => "Language server for dialogue script files"
  | .checker => "Validate dialogue script files without an editor"

/-- How a program is called. -/
def Program.usageLine (p : Program) : String :=
  "Usage: " ++ p.name ++ " [OPTIONS]" ++ if p.takesFiles then " <FILES>..." else ""

/-- What `--help` prints. -/
def Program.helpText (p : Program) : String :=
  let head := [p.purpose, "", p.usageLine, ""]
  let files := if p.takesFiles then ["Arguments:", "  <FILES>...  Script files to validate", ""] else []
  let options := ["Options:",
    "      --max-number-of-problems <MAX_NUMBER_OF_PROBLEMS>",
    "          Maximum number of problems reported per document",
    "      --config <CONFIG>",
    "          Path to a TOML config file",
    "      --log-level <LOG_LEVEL>",
    "          Log level (trace, debug, info, warn, error) [default: info]",
    "  -h, --help",
    "          Print help",
    "  -V, --version",
    "          Print version"]
  String.join ((head ++ files ++ options).map (· ++ "\n"))

end DialogueScript
