import DialogueScript.CommandLine.Options
import DialogueScript.Text.Cut
import DialogueScript.Text.Digit

/-!
# Reading a command line

Arguments are taken from left to right and the first fault met decides. An option or a run of files is only judged when
the next known option or the end is reached, so an unknown argument behind a bad value is found first. An argument that
starts with a dash is never the value of the option before it, unless it is the dash alone; after `--` every argument
is a file.
-/

namespace DialogueScript

namespace CommandLine

/-- What has been read but not yet judged. -/
inductive Pending where
  | nothing
  /-- An option, with its value once that has been seen. -/
  | option (name : OptionName) (value : Option String)
  /-- A run of files. -/
  | files (names : List String)
  deriving DecidableEq, Repr

/-- What has been read so far. -/
structure Reading where
  maxNumberOfProblems : Option Nat := none
  config : Option String := none
  logLevel : Option String := none
  files : List String := []
  pending : Pending := .nothing
  /-- Whether `--` has been seen. -/
  onlyFiles : Bool := false
  deriving DecidableEq, Repr

/-- A count of 64 bits: decimal digits, with an optional plus sign. -/
def count? (s : String) : Option Nat :=
  let digits := match s.toList with
    | '+' :: rest => rest
    | cs => cs
  if digits.isEmpty || !digits.all isDigit then none
  else
    let n := digitsValue 10 digits
    if n < Nat.pow 2 64 then some n else none

/-- Gives an option its value. Giving it twice is a fault even if the second value is a bad one. -/
def assign (r : Reading) (value : String) : OptionName → Except Stop Reading
  | .maxNumberOfProblems =>
    if r.maxNumberOfProblems.isSome then .error (.usage .argumentConflict)
    else
      match count? value with
      | some n => .ok { r with maxNumberOfProblems := some n }
      | none => .error (.usage .valueValidation)
  | .config =>
    if r.config.isSome then .error (.usage .argumentConflict)
    else if value.isEmpty then .error (.usage .invalidValue)
    else .ok { r with config := some value }
  | .logLevel =>
    if r.logLevel.isSome then .error (.usage .argumentConflict)
    else .ok { r with logLevel := some value }

/-- Judges what is pending. -/
def settle (r : Reading) : Except Stop Reading :=
  match r.pending with
  | .nothing => .ok r
  | .option _ none => .error (.usage .invalidValue)
  | .option name (some value) => assign { r with pending := .nothing } value name
  | .files names =>
    if names.any String.isEmpty then .error (.usage .invalidValue)
    else .ok { r with files := r.files ++ names, pending := .nothing }

/-- The option with a value that a word names. -/
def optionNamed? : String → Option OptionName
  | "max-number-of-problems" => some .maxNumberOfProblems
  | "config" => some .config
  | "log-level" => some .logLevel
  | _ => none

/-- The request that a word names. -/
def requestNamed? : String → Option Stop
  | "help" => some .help
  | "version" => some .version
  | _ => none

/-- The request that a letter names. -/
def requestLettered? : Char → Option Stop
  | 'h' => some .help
  | 'V' => some .version
  | _ => none

/-- Takes an option by its word, with the value joined to it by an equals sign if there is one. -/
def takeLong (r : Reading) (word : String) (value : Option String) : Except Stop Reading :=
  match optionNamed? word with
  | some name => do
    let r ← settle r
    match value with
    | some v => assign r v name
    | none => pure { r with pending := .option name none }
  | none =>
    match requestNamed? word with
    | some stop => do
      if value.isSome then throw (.usage .tooManyValues)
      let _ ← settle r
      throw stop
    | none => .error (.usage .unknownArgument)

/-- Takes an argument as a file. -/
def takeFile (p : Program) (r : Reading) (arg : String) : Except Stop Reading :=
  if !p.takesFiles then .error (.usage .unknownArgument)
  else
    match r.pending with
    | .files names => .ok { r with pending := .files (names ++ [arg]) }
    | _ => do
      let r ← settle r
      pure { r with pending := .files [arg] }

/-- Takes an argument that is no option: the value an option waits for, or a file. -/
def takePlain (p : Program) (r : Reading) (arg : String) : Except Stop Reading :=
  match r.pending with
  | .option name none => .ok { r with pending := .option name (some arg) }
  | _ => takeFile p r arg

/-- Takes the next argument. -/
def take (p : Program) (r : Reading) (arg : String) : Except Stop Reading :=
  if r.onlyFiles then takeFile p r arg
  else
    match arg.toList with
    | ['-', '-'] => .ok { r with onlyFiles := true }
    | '-' :: '-' :: word =>
      match cut '=' word with
      | some (word, value) => takeLong r (String.ofList word) (some (String.ofList value))
      | none => takeLong r (String.ofList word) none
    | '-' :: letter :: _ =>
      match requestLettered? letter with
      | some stop => do
        let _ ← settle r
        throw stop
      | none => .error (.usage .unknownArgument)
    | _ => takePlain p r arg

/-- Takes the arguments in order. -/
def takeAll (p : Program) : Reading → List String → Except Stop Reading
  | r, [] => .ok r
  | r, arg :: rest => do
    let r ← take p r arg
    takeAll p r rest

/-- The options and the files of a command line, given without the program's name. -/
def read (p : Program) (args : List String) : Except Stop (Options × List String) := do
  let r ← takeAll p {} args
  let r ← settle r
  if p.takesFiles && r.files.isEmpty then throw (.usage .missingRequiredArgument)
  pure (⟨r.maxNumberOfProblems, r.config, r.logLevel.getD "info"⟩, r.files)

end CommandLine

end DialogueScript
