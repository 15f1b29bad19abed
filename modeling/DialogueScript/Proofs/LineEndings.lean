import DialogueScript.Proofs.Margins

/-!
# Line endings

A line feed may have a carriage return in front of it. Only one carriage return is dropped from the end of a line, so a
line that ends in several of them keeps the others, but these are padding behind the line and are never noticed
(`diagnose_dropReturn`). It follows that carriage returns put in front of any line feeds of a script, whatever stands
there already, leave its problems as they are (`validate_withReturns`).
-/

namespace DialogueScript

/-- The text with a carriage return put in front of the line feeds at the chosen places. -/
def withReturns (chosen : Nat → Bool) (text : List Char) : List Char :=
  (text.mapIdx fun i c => if c = '\n' ∧ chosen i = true then ['\r', '\n'] else [c]).flatten

/-! ## Pieces of the text -/

section Pieces

variable {chosen : Nat → Bool} {piece piece' : List Char}

theorem withReturns_cons (chosen : Nat → Bool) (c : Char) (s : List Char) :
    withReturns chosen (c :: s) =
      (if c = '\n' ∧ chosen 0 = true then ['\r', '\n'] else [c]) ++ withReturns (fun i => chosen (i + 1)) s := by
  simp only [withReturns, List.mapIdx_cons, List.flatten_cons]

/-- The piece of a text between two line feeds, perhaps with one more carriage return at its end. -/
def Returned (piece piece' : List Char) : Prop := piece' = piece ∨ piece' = piece ++ ['\r']

theorem Returned.cons (h : Returned piece piece') (c : Char) : Returned (c :: piece) (c :: piece') := by
  rcases h with rfl | rfl
  · exact Or.inl rfl
  · exact Or.inr rfl

theorem forall₂_consHead {pieces pieces' : List (List Char)} (h : List.Forall₂ Returned pieces pieces') (c : Char) :
    List.Forall₂ Returned (consHead c pieces) (consHead c pieces') := by
  cases h with
  | nil => exact .cons (Or.inl rfl) .nil
  | cons hfirst hrest => exact .cons (hfirst.cons c) hrest

/-- The pieces of the text stay, up to a carriage return at the end of each. The induction is over the text; a return
that is put in becomes the end of a piece because its line feed stands right behind it. -/
theorem splitOn_withReturns (chosen : Nat → Bool) (text : List Char) :
    List.Forall₂ Returned (splitOn '\n' text) (splitOn '\n' (withReturns chosen text)) := by
  induction text generalizing chosen with
  | nil => exact .cons (Or.inl rfl) .nil
  | cons c s ih =>
    have hrest := ih fun i => chosen (i + 1)
    rw [withReturns_cons]
    by_cases hc : c = '\n'
    · subst hc
      by_cases h₀ : chosen 0 = true
      · rw [if_pos ⟨rfl, h₀⟩]
        exact .cons (Or.inr rfl) hrest
      · rw [if_neg fun h => h₀ h.2]
        exact .cons (Or.inl rfl) hrest
    · rw [if_neg fun h => hc h.1]
      simp only [List.cons_append, List.nil_append, splitOn, hc, if_false]
      exact forall₂_consHead hrest c

end Pieces

/-! ## Problems of the lines -/

section Problems

variable {piece piece' : List Char}

theorem diagnose_append_return (line : List Char) (index : Nat) :
    diagnose (line ++ ['\r']) index = diagnose line index := by
  apply diagnose_append_pad
  intro c hc
  rw [List.mem_singleton.1 hc]
  decide

/-- It does not matter whether the carriage return of a line is dropped. -/
theorem diagnose_dropReturn (line : List Char) (index : Nat) :
    diagnose (dropReturn line) index = diagnose line index := by
  unfold dropReturn
  split
  · rename_i hlast
    have hline := List.dropLast_append_getLast? '\r' hlast
    rw [← diagnose_append_return line.dropLast, hline]
  · rfl

theorem Returned.diagnose_eq (h : Returned piece piece') (index : Nat) :
    diagnose piece index = diagnose piece' index := by
  rcases h with rfl | rfl
  · rfl
  · exact (diagnose_append_return piece index).symm

/-- Lines with the same problems, one by one, have the same problems together. -/
theorem problemsFrom_congr {ls ms : List (List Char)}
    (h : List.Forall₂ (fun line line' => ∀ i, diagnose line i = diagnose line' i) ls ms) (index : Nat) :
    problemsFrom index ls = problemsFrom index ms := by
  induction h generalizing index with
  | nil => rfl
  | cons hline _ ih => rw [problemsFrom_cons, problemsFrom_cons, hline index, ih (index + 1)]

theorem problems_withReturns (chosen : Nat → Bool) (text : List Char) :
    problems (withReturns chosen text) = problems text := by
  unfold problems
  refine (problemsFrom_congr ?_ 0).symm
  unfold lines
  rw [List.forall₂_map_left_iff, List.forall₂_map_right_iff]
  refine (splitOn_withReturns chosen text).imp ?_
  intro piece piece' h i
  rw [diagnose_dropReturn, diagnose_dropReturn, h.diagnose_eq i]

end Problems

/-- **Line endings never matter.** Carriage returns put in front of any line feeds of a script change nothing about
what is reported, neither what is said nor what is marked. -/
theorem validate_withReturns (chosen : Nat → Bool) (text : List Char) (cap : Nat) :
    validate (withReturns chosen text) cap = validate text cap := by
  rw [validate_eq_take, validate_eq_take, problems_withReturns]

-- the second line already ends in a carriage return and keeps it
example : withReturns (fun i => i == 8) "-: a\n- \r\n-".toList = "-: a\n- \r\r\n-".toList ∧
    lines "-: a\n- \r\r\n-".toList = ["-: a".toList, "- \r".toList, "-".toList] := by
  decide

end DialogueScript
