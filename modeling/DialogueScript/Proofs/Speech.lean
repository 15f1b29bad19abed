import DialogueScript.Proofs.Line

/-!
# What is said does not matter

The problems of a line whose header can be read depend on the header alone. What is said behind the colon may hold
colons, dashes, brackets, comments and complete headers: the check never gets there
(`diagnose_header_ignores_speech`).
-/

namespace DialogueScript

/-- **What is said never changes the problems of a dialogue.** With a name in its header the line passes; without one
it gets a single warning, which is the same whatever is said. -/
theorem diagnose_header_ignores_speech {pad : List Char} (hpad : ∀ c ∈ pad, isPadding c = true) (h : Header)
    (hcomment : '(' ∉ h.text) (index : Nat) :
    (h.name ≠ [] → ∀ speech, diagnose (pad ++ h.text ++ speech) index = []) ∧
      (h.name = [] → ∃ w : Diagnostic, w.severity = .warning ∧
        ∀ speech, diagnose (pad ++ h.text ++ speech) index = [w]) := by
  obtain ⟨before, after, hcut⟩ := exists_colon_pad_header hpad h
  have hopen : '(' ∉ pad ++ h.text := by
    have hpad' : '(' ∉ pad := not_mem_of_padding hpad (by decide)
    simp [hpad', hcomment]
  -- the comment, if there is one, is cut out of the speech, so the same header is read
  have hread : ∀ speech, diagnose (pad ++ h.text ++ speech) index =
      if h.name = [] then [missingCharacterAt index (columns before).toUInt32] else [] := by
    intro speech
    have hfind : Dialogue.find? (stripComment (pad ++ h.text ++ speech)) =
        some (h.parts (stripComment speech)).report := by
      rw [stripComment_append hopen]
      exact find?_pad_header hpad h _
    have hline : pad ++ h.text ++ speech = pad ++ '-' :: (h.body ++ speech) := by
      simp [Header.text]
    have hcheck := checkDialogue_of_find? (hcut speech) hfind index
    rw [hline, diagnose_dash hpad, ← hline, hcheck]
    by_cases hname : h.name = []
    · simp [Parts.report, Header.parts, hname]
    · simp [Parts.report, Header.parts, hname]
  constructor
  · intro hname speech
    rw [hread speech, if_neg hname]
  · intro hname
    refine ⟨missingCharacterAt index (columns before).toUInt32, rfl, fun speech => ?_⟩
    rw [hread speech, if_pos hname]

/-- A header without a name; the first colon of its line stands in its tag. -/
def maskedHeader : Header where
  w₁ := [' ']
  tag := some ['a', ':', 'b']
  w₂ := []
  expression := some []
  w₃ := []
  name := []
  w₄ := []
  portrait := some ['-', ':']
  w₅ := ['\t']
  blanks := by simp [isBlank]
  tag_open := by simp
  expression_open := by simp
  name_chars := by simp
  portrait_open := by simp

/-- The header with a name. -/
def unmaskedHeader : Header := { maskedHeader with name := ['小', '明'], name_chars := by simp [isNameChar] }

theorem maskedHeader_ignores_speech :
    '(' ∉ maskedHeader.text ∧ '(' ∉ unmaskedHeader.text ∧
      (∀ speech, diagnose ([byteOrderMark, ' '] ++ unmaskedHeader.text ++ speech) 7 = []) ∧
      ∃ w : Diagnostic, w.severity = .warning ∧
        ∀ speech, diagnose ([byteOrderMark, ' '] ++ maskedHeader.text ++ speech) 7 = [w] := by
  have hpad : ∀ c ∈ [byteOrderMark, ' '], isPadding c = true := by simp [isPadding, isBlank]
  have hmasked : '(' ∉ maskedHeader.text := by decide
  have hunmasked : '(' ∉ unmaskedHeader.text := by decide
  exact ⟨hmasked, hunmasked, (diagnose_header_ignores_speech hpad unmaskedHeader hunmasked 7).1 (by decide),
    (diagnose_header_ignores_speech hpad maskedHeader hmasked 7).2 rfl⟩

end DialogueScript
