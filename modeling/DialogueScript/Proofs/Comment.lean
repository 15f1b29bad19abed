import DialogueScript.Proofs.Line

/-!
# Comments are transparent

The colon of a dialogue is looked for on the line as written, its header on the line without its comment. A comment
therefore never changes what is said about a line, with one exception: a line whose only colons stand in the comment has
a colon and still no header, so it passes (`comment_is_transparent`).
-/

namespace DialogueScript

/-- What is said about a line, wherever it is marked. -/
def Diagnostic.wording (d : Diagnostic) : Severity × String := (d.severity, d.message)

/-- The report of a missing speaker says the same wherever the colon is. -/
theorem wording_missingCharacterAt (index : Nat) (c c' : UInt32) :
    (missingCharacterAt index c).wording = (missingCharacterAt index c').wording := rfl

/-- Two lines with a colon and the same text outside their comments have the same said about them. -/
theorem checkDialogue_wording {line line' : List Char} (hcolon : ':' ∈ line) (hcolon' : ':' ∈ line')
    (hstrip : stripComment line = stripComment line') (index : Nat) :
    (checkDialogue line index).map Diagnostic.wording = (checkDialogue line' index).map Diagnostic.wording := by
  obtain ⟨before, after, hcut⟩ := exists_cut hcolon
  obtain ⟨before', after', hcut'⟩ := exists_cut hcolon'
  rw [checkDialogue_of_cut hcut, checkDialogue_of_cut hcut', hstrip]
  split
  · simp only [List.map_cons, List.map_nil, wording_missingCharacterAt index _ (columns before').toUInt32]
  · rfl

/-- **A comment is transparent, unless it holds the only colons of its line.** A dialogue line says the same with and
without its comment. In the remaining case the line with the comment passes, and the line without it lacks a colon. -/
theorem comment_is_transparent {x b y : List Char} (hdash : (trim x).head? = some '-') (hx : '(' ∉ x) (hb : ')' ∉ b)
    (hxy : ¬ Commented (x ++ y)) (index : Nat) :
    (':' ∈ x ++ y ∨ ':' ∉ b →
      (diagnose (x ++ '(' :: (b ++ ')' :: y)) index).map Diagnostic.wording =
        (diagnose (x ++ y) index).map Diagnostic.wording) ∧
      (':' ∉ x ++ y → ':' ∈ b →
        diagnose (x ++ '(' :: (b ++ ')' :: y)) index = [] ∧ diagnose (x ++ y) index = [missingColonAt index]) := by
  obtain ⟨pad, s, hpad, hpads⟩ := exists_pad_of_trim hdash
  have hkind : ∀ t, diagnose (x ++ t) index = checkDialogue (x ++ t) index := by
    intro t
    rw [hpads, List.append_assoc]
    exact diagnose_dash hpad (s ++ t) index
  have hstrip : stripComment (x ++ '(' :: (b ++ ')' :: y)) = x ++ y := stripComment_comment hx hb y
  have hplain : stripComment (x ++ y) = x ++ y := stripComment_of_not_commented hxy
  have hmem : ':' ∈ x ++ '(' :: (b ++ ')' :: y) ↔ ':' ∈ x ++ y ∨ ':' ∈ b := by
    simp only [List.mem_append, List.mem_cons, Char.reduceEq, false_or]
    tauto
  rw [hkind, hkind]
  constructor
  · intro h
    by_cases hcolon : ':' ∈ x ++ y
    · exact checkDialogue_wording (hmem.2 (Or.inl hcolon)) hcolon (hstrip.trans hplain.symm) index
    · have hb' : ':' ∉ b := h.resolve_left hcolon
      rw [checkDialogue_of_not_mem hcolon, checkDialogue_of_not_mem (mt hmem.1 (by simp [hcolon, hb']))]
  · intro hcolon hb'
    refine ⟨?_, checkDialogue_of_not_mem hcolon index⟩
    obtain ⟨before, after, hcut⟩ := exists_cut (hmem.2 (Or.inr hb'))
    rw [checkDialogue_of_cut hcut, hstrip, find?_of_not_mem hcolon]
    rfl

/-- A comment in the middle of a tag, and one with the only colon of its line; the brackets behind them stand the wrong
way round. -/
theorem aside_is_transparent :
    (¬ Commented ("-<a".toList ++ ">: )b(".toList) ∧
        (diagnose ("-<a".toList ++ '(' :: ("-(:".toList ++ ')' :: ">: )b(".toList)) 3).map Diagnostic.wording =
          (diagnose ("-<a".toList ++ ">: )b(".toList) 3).map Diagnostic.wording) ∧
      ¬ Commented ("- ".toList ++ "Bob )(".toList) ∧
        diagnose ("- ".toList ++ '(' :: ("a:".toList ++ ')' :: "Bob )(".toList)) 3 = [] ∧
        diagnose ("- ".toList ++ "Bob )(".toList) 3 = [missingColonAt 3] := by
  have htag : ¬ Commented ("-<a".toList ++ ">: )b(".toList) := by decide
  have hplain : ¬ Commented ("- ".toList ++ "Bob )(".toList) := by decide
  exact ⟨⟨htag, (comment_is_transparent (by decide) (by decide) (by decide) htag 3).1 (by decide)⟩, hplain,
    (comment_is_transparent (by decide) (by decide) (by decide) hplain 3).2 (by decide) (by decide)⟩

end DialogueScript
