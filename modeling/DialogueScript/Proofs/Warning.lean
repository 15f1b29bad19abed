import DialogueScript.Proofs.Line

/-!
# The header a warning is about

A dialogue is looked for at every dash of a line, not only at the one it begins with. So a line passes when no header
can be read at any of its dashes, and when there are some, the leftmost of them alone decides
(`leftmost_header_decides`). A header at the leading dash is always the leftmost one; where it cannot be read, a later
dash may give a warning (`later_dash_warns`).
-/

namespace DialogueScript

variable {line : List Char}

/-- A header begins with a dash. -/
theorem Header.At.le_idxOf {h : Header} {p : Nat} {rest : List Char} (hat : h.At line p rest) :
    line.idxOf '-' ≤ p := by
  obtain ⟨before, rfl, rfl⟩ := hat
  rw [List.append_assoc, List.idxOf_append]
  split
  · exact List.idxOf_le_length
  · simp [Header.text]

/-- **The leftmost header of a dialogue line decides.** A line with a colon passes when no header stands anywhere in it.
Otherwise the leftmost header gives the line its warning, or lets it pass, and the header at the leading dash is the
leftmost one if it stands there. -/
theorem leftmost_header_decides (hdash : (trim line).head? = some '-') (hcolon : ':' ∈ line) (index : Nat) :
    ((∀ p (h : Header) (rest : List Char), ¬ h.At (stripComment line) p rest) → diagnose line index = []) ∧
      ∃ w : Diagnostic, w.problem = .missingCharacter ∧
        (∀ p (h : Header) (rest : List Char), h.At (stripComment line) p rest →
          (∀ q < p, ∀ (h' : Header) (rest' : List Char), ¬ h'.At (stripComment line) q rest') →
          diagnose line index = if h.name = [] then [w] else []) ∧
        ∀ (h : Header) (rest : List Char), h.At (stripComment line) ((stripComment line).idxOf '-') rest →
          diagnose line index = if h.name = [] then [w] else [] := by
  obtain ⟨pad, s, hpad, hline⟩ := exists_pad_of_trim hdash
  obtain ⟨before, after, hcut⟩ := exists_cut hcolon
  have hkind : diagnose line index = checkDialogue line index := by
    rw [hline]
    exact diagnose_dash hpad s index
  have hleftmost : ∀ p (h : Header) (rest : List Char), h.At (stripComment line) p rest →
      (∀ q < p, ∀ (h' : Header) (rest' : List Char), ¬ h'.At (stripComment line) q rest') →
      diagnose line index = if h.name = [] then [missingCharacterAt index (columns before).toUInt32] else [] := by
    intro p h rest hat hleft
    rw [hkind, checkDialogue_of_find? hcut (find?_of_leftmost hat hleft)]
    simp only [character_report_eq_none]
  refine ⟨fun hno => ?_, missingCharacterAt index (columns before).toUInt32, rfl, hleftmost, fun h rest hat => ?_⟩
  · have hfind : Dialogue.find? (stripComment line) = none := by
      by_contra hne
      obtain ⟨p, h, rest, hat⟩ := find?_isSome_iff.1 (Option.isSome_iff_ne_none.2 hne)
      exact hno p h rest hat
    rw [hkind, checkDialogue_of_cut hcut, hfind]
    rfl
  · exact hleftmost _ h rest hat fun q hq h' rest' hat' => absurd hat'.le_idxOf (Nat.not_le.2 hq)

/-! ## A line with two names -/

section TwoNames

/-- Two names stand behind the first dash, and none behind the second. -/
def twoNames : List Char := "- Alice Bob - : hi".toList

/-- Behind the second dash stands a header without a name. -/
theorem exists_namelessHeader : ∃ h : Header, h.name = [] ∧ h.At (stripComment twoNames) 12 " hi".toList := by
  let h : Header :=
    { w₁ := [' '], tag := none, w₂ := [], expression := none, w₃ := [], name := [], w₄ := [], portrait := none, w₅ := []
      blanks := by simp [isBlank]
      tag_open := by simp
      expression_open := by simp
      name_chars := by simp
      portrait_open := by simp }
  exact ⟨h, rfl, "- Alice Bob ".toList, by decide, by decide⟩

/-- Two names make no header, and before the second dash there is no other. -/
theorem twoNames_not_at {q : Nat} (hq : q < 12) (h : Header) (rest : List Char) :
    ¬ h.At (stripComment twoNames) q rest := by
  intro hat
  obtain ⟨before, s, d, rfl, hline, hd⟩ := exists_header_at_iff.1 ⟨h, rest, hat⟩
  have hdash : (stripComment twoNames)[before.length]? = some '-' := by
    rw [hline]
    simp
  have hfirst : ∀ q < 12, (stripComment twoNames)[q]? = some '-' → q = 0 := by decide
  rw [List.length_eq_zero_iff.1 (hfirst before.length hq hdash)] at hline
  have hs : s = (stripComment twoNames).tail := by
    rw [hline]
    rfl
  have hnone : Dialogue.afterDash? (stripComment twoNames).tail = none := by decide
  rw [hs, hnone] at hd
  cases hd

/-- The header behind the second dash decides. -/
theorem namelessHeader_decides :
    (trim twoNames).head? = some '-' ∧ ':' ∈ twoNames ∧
      (∃ h : Header, h.name = [] ∧ h.At (stripComment twoNames) 12 " hi".toList) ∧
      ∃ w : Diagnostic, w.problem = .missingCharacter ∧ diagnose twoNames 0 = [w] := by
  have hdash : (trim twoNames).head? = some '-' := by decide
  have hcolon : ':' ∈ twoNames := by decide
  obtain ⟨-, w, hw, hleftmost, -⟩ := leftmost_header_decides hdash hcolon 0
  refine ⟨hdash, hcolon, exists_namelessHeader, w, hw, ?_⟩
  obtain ⟨h, hname, hat⟩ := exists_namelessHeader
  have hdecides := hleftmost 12 h _ hat fun q hq h' rest' => twoNames_not_at hq h' rest'
  rw [if_pos hname] at hdecides
  exact hdecides

/-- The header at the leading dash cannot be read, and yet the line gets a warning. -/
theorem later_dash_warns :
    (trim twoNames).head? = some '-' ∧ ':' ∈ twoNames ∧
      (∀ (h : Header) (rest : List Char), ¬ h.At (stripComment twoNames) ((stripComment twoNames).idxOf '-') rest) ∧
      diagnose twoNames 0 = [missingCharacterAt 0 14] := by
  refine ⟨by decide, by decide, fun h rest => ?_, by decide⟩
  have hfirst : (stripComment twoNames).idxOf '-' = 0 := by decide
  rw [hfirst]
  exact twoNames_not_at (by decide) h rest

end TwoNames

end DialogueScript
