import DialogueScript.Proofs.Concatenation

/-!
# Reports in the order of the lines

A line is reported once at most (`diagnose_eq_nil_or_singleton`). Two things follow for a whole script.

* The scan never finds more problems than its budget allows (`length_scan_le`), because its budget is not used up when
  it looks at a line. So the cut at the end of `validate` takes nothing away (`validate_eq_scan`).
* The reports carry the indices of different lines, in order (`pairwise_problemsFrom`), and each of them is about a line
  of the script (`exists_line_of_mem_problems`).

A range carries its line in 32 bits, and in a script of at most `2 ^ 32` lines nothing of it is lost
(`toNat_range_line`). There the ranges and the messages tell the same order (`reports_follow_lines`).
-/

namespace DialogueScript

variable {line : List Char} {index : Nat} {d : Diagnostic} {text : List Char}

/-! ## One line -/

section Line

/-- A line is reported once at most. -/
theorem diagnose_eq_nil_or_singleton (line : List Char) (index : Nat) :
    diagnose line index = [] ∨ ∃ d, diagnose line index = [d] := by
  rw [diagnose_eq]
  split
  · by_cases hcolon : ':' ∈ line
    · obtain ⟨before, after, hcut⟩ := exists_cut hcolon
      rw [checkDialogue_of_cut hcut]
      split
      · exact Or.inr ⟨_, rfl⟩
      · exact Or.inl rfl
    · exact Or.inr ⟨_, checkDialogue_of_not_mem hcolon index⟩
  · exact Or.inl rfl

theorem length_diagnose_le_one (line : List Char) (index : Nat) : (diagnose line index).length ≤ 1 := by
  rcases diagnose_eq_nil_or_singleton line index with h | ⟨d, h⟩ <;> simp [h]

/-- A report marks a stretch of its own line. -/
theorem range_line_of_mem_diagnose (h : d ∈ diagnose line index) :
    d.range.start.line = index.toUInt32 ∧ d.range.stop.line = index.toUInt32 := by
  rcases diagnose_cases h with rfl | ⟨_, _, -, rfl⟩ <;> exact ⟨rfl, rfl⟩

/-- Errors are for lines without a colon, warnings for lines with one. -/
theorem colon_of_mem_diagnose (h : d ∈ diagnose line index) :
    (d.severity = .error → ':' ∉ line) ∧ (d.severity = .warning → ':' ∈ line) := by
  rcases checkDialogue_cases (mem_diagnose_iff.1 h).2 with ⟨hcolon, rfl⟩ | ⟨before, after, hcut, rfl⟩
  · exact ⟨fun _ => hcolon, nofun⟩
  · obtain ⟨-, rfl⟩ := cut_eq_some_iff.1 hcut
    exact ⟨nofun, fun _ => by simp⟩

end Line

/-! ## The scan -/

section Scan

/-- The scan stays within its budget. A line that is looked at finds a budget that is not used up, and takes one of it
at most. -/
theorem length_scan_le : ∀ (ls : List (List Char)) (budget index : Nat), (scan budget index ls).length ≤ budget
  | [], _, _ => Nat.zero_le _
  | line :: ls, budget, index => by
    rw [scan]
    by_cases hb : budget = 0
    · rw [if_pos hb]
      exact Nat.zero_le _
    · have hline := length_diagnose_le_one line index
      have hrest := length_scan_le ls (budget - (diagnose line index).length) (index + 1)
      simp only [hb, if_false, List.length_append]
      omega

/-- The scan ends in time, and nothing is left to cut. -/
theorem validate_eq_scan (text : List Char) (cap : Nat) : validate text cap = scan cap 0 (lines text) :=
  List.take_of_length_le (length_scan_le (lines text) cap 0)

theorem mem_problems_of_mem_validate {cap : Nat} (h : d ∈ validate text cap) : d ∈ problems text := by
  rw [validate_eq_take] at h
  exact List.mem_of_mem_take h

/-- The reports on lines come in the order of the lines, one for each line at most. -/
theorem pairwise_problemsFrom (index : Nat) (ls : List (List Char)) :
    (problemsFrom index ls).Pairwise fun d e => d.index < e.index := by
  induction ls generalizing index with
  | nil => exact .nil
  | cons line ls ih =>
    rw [problemsFrom_cons, List.pairwise_append]
    refine ⟨?_, ih (index + 1), fun d hd e he => ?_⟩
    · rcases diagnose_eq_nil_or_singleton line index with h | ⟨d, h⟩ <;> simp [h]
    · have hd' := index_of_mem_diagnose hd
      have he' := index_of_mem_problemsFrom he
      omega

/-- A report is about the line of the script that its index tells. -/
theorem exists_line_of_mem_problems (h : d ∈ problems text) :
    ∃ line, (lines text)[d.index]? = some line ∧ d ∈ diagnose line d.index := by
  obtain ⟨reports, hreports, hd⟩ := List.mem_flatten.1 h
  obtain ⟨i, hi, rfl⟩ := List.mem_mapIdx.1 hreports
  rw [Nat.zero_add] at hd
  have hindex : d.index = i := index_of_mem_diagnose hd
  subst hindex
  exact ⟨_, List.getElem?_eq_getElem hi, hd⟩

end Scan

/-! ## Ranges -/

/-- In a script that is not too long the line of a range is the index of its report. -/
theorem toNat_range_line (hlines : (lines text).length ≤ UInt32.size) (h : d ∈ problems text) :
    d.range.start.line.toNat = d.index := by
  obtain ⟨line, hline, hd⟩ := exists_line_of_mem_problems h
  obtain ⟨hlength, -⟩ := List.getElem?_eq_some_iff.1 hline
  rw [(range_line_of_mem_diagnose hd).1]
  exact UInt32.toNat_ofNat_of_lt' (Nat.lt_of_lt_of_le hlength hlines)

/-- **Reports follow the lines of their script.** Their ranges are on different lines, in order. Each is on a line of
the script that begins with a dash behind its padding, and its message gives the number of that line; errors are on
lines without a colon, warnings on lines with one. The scan finds no more problems than the cap allows, so that the cut
behind it never drops one. -/
theorem reports_follow_lines (hlines : (lines text).length ≤ UInt32.size) (cap : Nat) :
    (validate text cap).Pairwise (fun d e => d.range.start.line < e.range.start.line) ∧
      (∀ d ∈ validate text cap, d.range.stop.line = d.range.start.line ∧
        d.message = "Line " ++ toString (d.range.start.line.toNat + 1) ++ ": " ++ d.problem.complaint ∧
        ∃ line, (lines text)[d.range.start.line.toNat]? = some line ∧ (trim line).head? = some '-' ∧
          (d.severity = .error → ':' ∉ line) ∧ (d.severity = .warning → ':' ∈ line)) ∧
      (scan cap 0 (lines text)).length ≤ cap ∧ validate text cap = scan cap 0 (lines text) := by
  have hmem : ∀ d ∈ validate text cap, d ∈ problems text := fun d hd => mem_problems_of_mem_validate hd
  refine ⟨?_, fun d hd => ?_, length_scan_le _ _ _, validate_eq_scan text cap⟩
  · have hordered : (validate text cap).Pairwise fun d e => d.index < e.index := by
      rw [validate_eq_take, problems]
      exact (pairwise_problemsFrom 0 (lines text)).sublist (List.take_sublist _ _)
    refine hordered.imp_of_mem fun hd he hindex => ?_
    rw [UInt32.lt_iff_toNat_lt, toNat_range_line hlines (hmem _ hd), toNat_range_line hlines (hmem _ he)]
    exact hindex
  · obtain ⟨line, hline, hdiagnose⟩ := exists_line_of_mem_problems (hmem d hd)
    obtain ⟨hstart, hstop⟩ := range_line_of_mem_diagnose hdiagnose
    rw [toNat_range_line hlines (hmem d hd)]
    exact ⟨hstop.trans hstart.symm, rfl, line, hline, (mem_diagnose_iff.1 hdiagnose).1, colon_of_mem_diagnose hdiagnose⟩

/-- A script with three problems. The line of the second one ends in a carriage return, and the last one is indented. -/
def crowdedScript : List Char := "Scene\n- a\n-<b>: c\r\n@#d\n- e: f\n  - g".toList

/-- Under a cap of two the third problem is left out. -/
theorem crowdedScript_follows_lines :
    (lines crowdedScript).length ≤ UInt32.size ∧
      validate crowdedScript 2 = [missingColonAt 1, missingCharacterAt 2 4] ∧
      (validate crowdedScript 2).Pairwise (fun d e => d.range.start.line < e.range.start.line) ∧
      (missingCharacterAt 2 4).message = "Line " ++ toString (2 + 1) ++ ": " ++ "A dialogue needs a character!" ∧
      (∃ line, (lines crowdedScript)[2]? = some line ∧ (trim line).head? = some '-' ∧ ':' ∈ line) ∧
      validate crowdedScript 2 = scan 2 0 (lines crowdedScript) := by
  have hlines : (lines crowdedScript).length ≤ UInt32.size := by decide
  have hvalidate : validate crowdedScript 2 = [missingColonAt 1, missingCharacterAt 2 4] := by decide
  obtain ⟨hordered, hreports, -, hscan⟩ := reports_follow_lines hlines 2
  obtain ⟨-, hmessage, line, hline, hdash, -, hcolon⟩ := hreports (missingCharacterAt 2 4) (by simp [hvalidate])
  exact ⟨hlines, hvalidate, hordered, hmessage, ⟨line, hline, hdash, hcolon rfl⟩, hscan⟩

end DialogueScript
