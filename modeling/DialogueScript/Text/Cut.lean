/-!
# Cutting at an element

`cut c s` splits the list `s` around the first `c`; `splitOn c s` splits around every `c`. Neither keeps the element
itself. Most lists here are texts, some are bytes or code points.
-/

namespace DialogueScript

variable {α : Type} [DecidableEq α]

/-- What stands before the first `c` and after it, or nothing when `c` does not occur. -/
def cut (c : α) : List α → Option (List α × List α)
  | [] => none
  | d :: rest => if d = c then some ([], rest) else (cut c rest).map fun (before, after) => (d :: before, after)

/-- Puts an element in front of the first piece. -/
def consHead (c : α) : List (List α) → List (List α)
  | [] => [[c]]
  | piece :: pieces => (c :: piece) :: pieces

/-- The pieces between the occurrences of `c`; there is always one piece more than occurrences. -/
def splitOn (c : α) : List α → List (List α)
  | [] => [[]]
  | d :: rest => if d = c then [] :: splitOn c rest else consHead d (splitOn c rest)

end DialogueScript
