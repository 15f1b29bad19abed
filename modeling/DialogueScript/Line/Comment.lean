import DialogueScript.Text.Cut

/-!
# Inline comments

A comment stands in round brackets. Only the first one of a line counts: it runs from the first opening bracket to the
first closing bracket after it, whatever lies between.
-/

namespace DialogueScript

/-- The line without its first comment. -/
def stripComment (line : List Char) : List Char :=
  match cut '(' line with
  | none => line
  | some (before, rest) =>
    match cut ')' rest with
    | none => line
    | some (_, after) => before ++ after

end DialogueScript
