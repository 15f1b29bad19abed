/-!
# Kinds of lines

The kind of a line is read off the first two characters of its trimmed text. A dash in front decides for a dialogue,
also when a number sign follows.
-/

namespace DialogueScript

/-- What a line of a script is. -/
inductive LineKind where
  /-- It starts with a dash. -/
  | dialogue
  /-- Its second character is a number sign. -/
  | event
  /-- Anything else; it is never reported. -/
  | unclassified
  deriving DecidableEq, Repr

/-- The kind of a trimmed line. -/
def LineKind.ofTrimmed : List Char → LineKind
  | '-' :: _ => .dialogue
  | _ :: '#' :: _ => .event
  | _ => .unclassified

end DialogueScript
