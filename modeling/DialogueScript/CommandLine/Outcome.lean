import DialogueScript.CommandLine.Options

/-!
# How a program ends

A program that ends has printed something, leaves an exit code and may have broken off with a message. Help and version
are answered with success, a wrong command line with exit code 2, and a program that breaks off has exit code 1.
-/

namespace DialogueScript

/-- What a run prints and how it ends. -/
structure Outcome where
  output : String
  exitCode : Nat
  /-- The message of a run that breaks off. -/
  failure : Option String
  deriving DecidableEq, Repr

/-- A run that breaks off before it prints anything. -/
def Outcome.failed (message : String) : Outcome := ⟨"", 1, some message⟩

/-- The outcome of a program that ends before it begins. -/
def Stop.outcome (p : Program) : Stop → Outcome
  | .help => ⟨p.helpText, 0, none⟩
  | .version => ⟨p.versionText, 0, none⟩
  | .usage _ => ⟨"", 2, none⟩

end DialogueScript
