import DialogueScript.Toml.Document

/-!
# Settings files

A settings file is a TOML document. One key counts; all else is ignored, but must be valid TOML.
-/

namespace DialogueScript

/-- What a settings file says. -/
structure FileSettings where
  maxNumberOfProblems : Option Nat
  deriving DecidableEq, Repr

/-- The settings in the text of a file, or nothing when it is no TOML or the cap is no integer of 64 bits without
sign. -/
def FileSettings.parse? (text : List Char) : Option FileSettings := do
  let entries ← Toml.parse? text
  match Toml.get? "max_number_of_problems" entries with
  | none => some ⟨none⟩
  | some (.integer n) => if 0 ≤ n && n < Int.pow 2 64 then some ⟨some n.toNat⟩ else none
  | some _ => none

end DialogueScript
