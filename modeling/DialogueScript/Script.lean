import DialogueScript.Line.Check
import DialogueScript.Text.Lines

/-!
# Checking a whole script

The lines are checked in order until the script ends or as many problems are found as the cap allows.
-/

namespace DialogueScript

/-- The problems of the lines from an index on. The scan stops at the first line it meets with its budget used up. -/
def scan (budget index : Nat) : List (List Char) → List Diagnostic
  | [] => []
  | line :: rest =>
    if budget = 0 then []
    else
      let found := diagnose line index
      found ++ scan (budget - found.length) (index + 1) rest

/-- The problems of a script, at most `cap` of them. -/
def validate (text : List Char) (cap : Nat) : List Diagnostic := (scan cap 0 (lines text)).take cap

end DialogueScript
