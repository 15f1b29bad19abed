import DialogueScript.Script

/-!
# The cap only cuts

A script is scanned line by line under a budget that shrinks with every problem found, and the scan stops when the
budget is used up. `problems` is the plain computation, without a budget: every line is checked at its index.

* What the budget lets through agrees with the plain computation as far as the budget reaches (`take_scan`).
* Hence a cap does nothing but cut the list of all problems (`validate_eq_take`), a smaller cap gives a beginning of
  what a larger one gives, and the number of problems is known (`validate_cuts_problems`).
-/

namespace DialogueScript

/-- The problems of lines of which the first has an index, without a cap. -/
def problemsFrom (index : Nat) (ls : List (List Char)) : List Diagnostic :=
  (ls.mapIdx fun i line => diagnose line (index + i)).flatten

/-- All problems of a script. -/
def problems (text : List Char) : List Diagnostic := problemsFrom 0 (lines text)

section Scan

variable (index : Nat) (line : List Char) (ls : List (List Char))

theorem problemsFrom_cons : problemsFrom index (line :: ls) = diagnose line index ++ problemsFrom (index + 1) ls := by
  have hshift : (fun i line => diagnose line (index + (i + 1))) = fun i line => diagnose line (index + 1 + i) := by
    funext i line
    rw [Nat.add_right_comm, Nat.add_assoc]
  simp only [problemsFrom, List.mapIdx_cons, List.flatten_cons, Nat.add_zero, hshift]

/-- The scan and the plain computation agree as far as the budget reaches. Each line uses up the part of the budget
that its own problems take, so the induction is over the lines, for every budget. -/
theorem take_scan : ∀ (ls : List (List Char)) (budget index : Nat),
    (scan budget index ls).take budget = (problemsFrom index ls).take budget
  | [], _, _ => rfl
  | line :: ls, budget, index => by
    rw [scan, problemsFrom_cons]
    by_cases hb : budget = 0
    · subst hb
      rfl
    · have ih := take_scan ls (budget - (diagnose line index).length) (index + 1)
      simp only [hb, if_false, List.take_append, ih]

theorem validate_eq_take (text : List Char) (cap : Nat) : validate text cap = (problems text).take cap := by
  rw [validate, take_scan, problems]

end Scan

/-- **The scan with its early end is the plain computation, cut at the cap.** So a smaller cap gives a beginning of
what a larger one gives, and a script shows as many problems as it has, or as the cap allows. -/
theorem validate_cuts_problems (text : List Char) :
    (∀ cap, validate text cap = (problems text).take cap) ∧
      (∀ m n, m ≤ n → validate text m <+: validate text n) ∧
      ∀ cap, (validate text cap).length = min cap (problems text).length := by
  refine ⟨validate_eq_take text, ?_, ?_⟩
  · intro m n h
    rw [validate_eq_take, validate_eq_take]
    exact List.take_prefix_take_left h
  · intro cap
    rw [validate_eq_take, List.length_take]

end DialogueScript
