/-!
# Diagnostics

A diagnostic names a problem, the line it is on and the columns to mark. Its severity and its message follow from the
problem and the line, so they cannot disagree with it.
-/

namespace DialogueScript

/-- How bad a problem is. -/
inductive Severity where
  | error
  | warning
  deriving DecidableEq, Repr

/-- The number that editors know a severity by. -/
def Severity.code : Severity → Nat
  | .error => 1
  | .warning => 2

/-- The word for a severity in printed reports. -/
def Severity.word : Severity → String
  | .error => "error"
  | .warning => "warning"

/-- What can be wrong with a dialogue line. -/
inductive Problem where
  /-- The line has no colon. -/
  | missingColon
  /-- The dialogue has no speaker. -/
  | missingCharacter
  deriving DecidableEq, Repr

/-- A missing colon is an error, a missing speaker a warning. -/
def Problem.severity : Problem → Severity
  | .missingColon => .error
  | .missingCharacter => .warning

/-- The complaint about a problem. -/
def Problem.complaint : Problem → String
  | .missingColon => "A dialogue should contain a colon!"
  | .missingCharacter => "A dialogue needs a character!"

/-- A place in a document: line and column from zero, both carried in 32 bits. -/
structure Position where
  line : UInt32
  character : UInt32
  deriving DecidableEq, Repr

/-- The stretch from one position to another. -/
structure Range where
  start : Position
  stop : Position
  deriving DecidableEq, Repr

/-- The columns `start` to `stop` of one line. -/
def Range.onLine (line start stop : UInt32) : Range := ⟨⟨line, start⟩, ⟨line, stop⟩⟩

/-- A problem at a place of a script. -/
structure Diagnostic where
  problem : Problem
  /-- The line, counted from zero. -/
  index : Nat
  range : Range
  deriving DecidableEq, Repr

namespace Diagnostic

/-- Who reports. -/
def source : String := "tdls"

/-- The severity of the problem. -/
def severity (d : Diagnostic) : Severity := d.problem.severity

/-- The message shown to the writer, with the line counted from one. -/
def message (d : Diagnostic) : String := "Line " ++ toString (d.index + 1) ++ ": " ++ d.problem.complaint

/-- How many diagnostics of a list have a severity. -/
def count (s : Severity) (ds : List Diagnostic) : Nat := (ds.filter fun d => d.severity == s).length

end Diagnostic

end DialogueScript
