import DialogueScript.Text.Cut

/-!
# Lines of a text

A text is split at its line feeds, and each line sheds one carriage return at its end, so that both line endings give
the same lines. A text has one line more than it has line feeds.
-/

namespace DialogueScript

/-- A line without one carriage return at its end. -/
def dropReturn (line : List Char) : List Char :=
  if line.getLast? = some '\r' then line.dropLast else line

/-- The lines of a text. -/
def lines (text : List Char) : List (List Char) := (splitOn '\n' text).map dropReturn

end DialogueScript
