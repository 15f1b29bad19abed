import DialogueScript.Proofs.Cap
import DialogueScript.Proofs.Line

/-!
# Padding in front of a line

Padding in front of a line changes nothing about it but the columns behind the padding: a missing colon is always marked
at the start of the line, and the mark of a missing speaker moves along with the colon (`diagnose_pad`). A byte order
mark at the start of a script is padding of its first line, so it moves marks on that line alone (`problems_mark`).

Only dialogues are reported, and only for two things: a missing colon, or a missing speaker in front of the first colon
(`mem_diagnose_iff`, `checkDialogue_cases`). A mark ends on the script (`problems_cases`), so in a short script no
column is lost by being carried in 32 bits.
-/

namespace DialogueScript

/-! ## Columns -/

section Columns

variable {c : Char} {s : List Char}

theorem columns_append (s t : List Char) : columns (s ++ t) = columns s + columns t := by
  simp only [columns, utf16, List.flatMap_append, List.length_append]

theorem columns_cons (c : Char) (s : List Char) : columns (c :: s) = columns [c] + columns s :=
  columns_append [c] s

theorem toNat_twoBefore (column : UInt32) : (twoBefore column).toNat = column.toNat - 2 := by
  unfold twoBefore
  split
  · rename_i h
    have h' : column.toNat < 2 := UInt32.lt_iff_toNat_lt.1 h
    simp
    omega
  · rename_i h
    have h' : 2 ≤ column := UInt32.not_lt.1 h
    rw [UInt32.toNat_sub_of_le _ _ h']
    rfl

theorem columns_le_of_cut {before after : List Char} (h : cut c s = some (before, after)) :
    columns before ≤ columns s := by
  obtain ⟨-, rfl⟩ := cut_eq_some_iff.1 h
  rw [columns_append]
  exact Nat.le_add_right _ _

/-- On a short line no column is lost by being carried in 32 bits. -/
theorem toNat_columns_of_cut {before after : List Char} (h : cut c s = some (before, after))
    (hsize : columns s < UInt32.size) : (columns before).toUInt32.toNat = columns before :=
  UInt32.toNat_ofNat_of_lt' (Nat.lt_of_le_of_lt (columns_le_of_cut h) hsize)

theorem columns_le_of_mem_splitOn {piece : List Char} (h : piece ∈ splitOn c s) : columns piece ≤ columns s := by
  induction s generalizing piece with
  | nil => simp_all [splitOn]
  | cons d s ih =>
    have hrest : ∀ {piece}, piece ∈ splitOn c s → columns piece ≤ columns (d :: s) := by
      intro piece hpiece
      rw [columns_cons]
      exact Nat.le_add_left_of_le (ih hpiece)
    unfold splitOn at h
    split at h
    · rcases List.mem_cons.1 h with rfl | h
      · exact Nat.zero_le _
      · exact hrest h
    · cases hs : splitOn c s with
      | nil => exact absurd hs (splitOn_ne_nil c s)
      | cons first pieces =>
        rw [hs] at h ih hrest
        rcases List.mem_cons.1 h with rfl | h
        · rw [columns_cons, columns_cons d s]
          exact Nat.add_le_add_left (ih List.mem_cons_self) _
        · exact hrest (List.mem_cons_of_mem first h)

theorem columns_le_of_mem_lines {line : List Char} (h : line ∈ lines s) : columns line ≤ columns s := by
  obtain ⟨piece, hpiece, rfl⟩ := List.mem_map.1 h
  refine Nat.le_trans ?_ (columns_le_of_mem_splitOn hpiece)
  unfold dropReturn
  split
  · obtain ⟨rest, hrest⟩ := List.dropLast_prefix piece
    have hsum := columns_append piece.dropLast rest
    rw [hrest] at hsum
    omega
  · exact Nat.le_refl _

end Columns

/-! ## The first line -/

section FirstLine

variable {c : Char}

theorem dropReturn_cons (hc : c ≠ '\r') (line : List Char) : dropReturn (c :: line) = c :: dropReturn line := by
  cases line with
  | nil => simp [dropReturn, hc]
  | cons d line =>
    unfold dropReturn
    rw [List.getLast?_cons_cons]
    split <;> rfl

/-- A character in front of a text stands in front of its first line. -/
theorem lines_cons (hn : c ≠ '\n') (hr : c ≠ '\r') (s : List Char) : lines (c :: s) = consHead c (lines s) := by
  simp only [lines, splitOn, hn, if_false]
  cases hs : splitOn '\n' s with
  | nil => exact absurd hs (splitOn_ne_nil '\n' s)
  | cons piece pieces => simp only [consHead, List.map_cons, dropReturn_cons hr]

theorem lines_ne_nil (s : List Char) : lines s ≠ [] := by
  unfold lines
  simp only [ne_eq, List.map_eq_nil_iff]
  exact splitOn_ne_nil '\n' s

end FirstLine

/-! ## What is reported -/

section Reports

variable {line : List Char} {index : Nat} {d : Diagnostic}

/-- Only dialogues are ever reported. -/
theorem diagnose_eq (line : List Char) (index : Nat) : diagnose line index =
    if LineKind.ofTrimmed (trim line) = .dialogue then checkDialogue line index else [] := by
  unfold diagnose
  cases LineKind.ofTrimmed (trim line) <;> rfl

/-- A dialogue is reported for a missing colon, or for a missing speaker in front of its first colon. -/
theorem checkDialogue_cases (h : d ∈ checkDialogue line index) : (':' ∉ line ∧ d = missingColonAt index) ∨
    ∃ before after, cut ':' line = some (before, after) ∧ d = missingCharacterAt index (columns before).toUInt32 := by
  by_cases hcolon : ':' ∈ line
  · obtain ⟨before, after, hcut⟩ := exists_cut hcolon
    rw [checkDialogue_of_cut hcut] at h
    split at h
    · exact Or.inr ⟨before, after, hcut, List.mem_singleton.1 h⟩
    · cases h
  · rw [checkDialogue_of_not_mem hcolon] at h
    exact Or.inl ⟨hcolon, List.mem_singleton.1 h⟩

theorem ofTrimmed_eq_dialogue_iff (s : List Char) : LineKind.ofTrimmed s = .dialogue ↔ s.head? = some '-' := by
  unfold LineKind.ofTrimmed
  split
  · simp
  · rename_i c rest hdash
    simpa using hdash
  · rename_i hdash _
    simp only [reduceCtorEq, false_iff]
    intro h
    obtain ⟨rest, rfl⟩ := List.head?_eq_some_iff.1 h
    exact hdash rest rfl

/-- What is reported of a line is reported of a dialogue, behind nothing but padding. -/
theorem mem_diagnose_iff :
    d ∈ diagnose line index ↔ (trim line).head? = some '-' ∧ d ∈ checkDialogue line index := by
  rw [diagnose_eq, ← ofTrimmed_eq_dialogue_iff]
  split
  · rename_i hkind
    simp [hkind]
  · rename_i hkind
    simp [hkind]

/-- A line is reported for a missing colon, or for a missing speaker in front of its first colon. -/
theorem diagnose_cases (h : d ∈ diagnose line index) : d = missingColonAt index ∨
    ∃ before after, cut ':' line = some (before, after) ∧ d = missingCharacterAt index (columns before).toUInt32 :=
  (checkDialogue_cases (mem_diagnose_iff.1 h).2).imp_left And.right

theorem index_of_mem_diagnose (h : d ∈ diagnose line index) : d.index = index := by
  rcases diagnose_cases h with rfl | ⟨_, _, -, rfl⟩ <;> rfl

/-- The report of the same problem with its colon moved to the right. -/
def Diagnostic.pushed (n : UInt32) (d : Diagnostic) : Diagnostic :=
  match d.problem with
  | .missingColon => d
  | .missingCharacter => missingCharacterAt d.index (d.range.stop.character + n)

theorem pushed_missingColonAt (n : UInt32) (index : Nat) :
    (missingColonAt index).pushed n = missingColonAt index := rfl

theorem pushed_missingCharacterAt (n : UInt32) (index : Nat) (colon : UInt32) :
    (missingCharacterAt index colon).pushed n = missingCharacterAt index (colon + n) := rfl

theorem exists_of_mem_problemsFrom {ls : List (List Char)} (h : d ∈ problemsFrom index ls) :
    ∃ line ∈ ls, ∃ i, index ≤ i ∧ d ∈ diagnose line i := by
  induction ls generalizing index with
  | nil => cases h
  | cons line ls ih =>
    rw [problemsFrom_cons] at h
    rcases List.mem_append.1 h with h | h
    · exact ⟨line, List.mem_cons_self, index, Nat.le_refl _, h⟩
    · obtain ⟨line', hline, i, hi, hd⟩ := ih h
      exact ⟨line', List.mem_cons_of_mem line hline, i, Nat.le_of_succ_le hi, hd⟩

/-- What is marked ends on the script. -/
theorem problems_cases {text : List Char} (h : d ∈ problems text) : (∃ i, d = missingColonAt i) ∨
    ∃ i n, n ≤ columns text ∧ d = missingCharacterAt i n.toUInt32 := by
  obtain ⟨line, hline, i, -, hd⟩ := exists_of_mem_problemsFrom h
  rcases diagnose_cases hd with hcolon | ⟨before, after, hcut, hspeaker⟩
  · exact Or.inl ⟨i, hcolon⟩
  · exact Or.inr ⟨i, columns before, Nat.le_trans (columns_le_of_cut hcut) (columns_le_of_mem_lines hline), hspeaker⟩

end Reports

section Padded

variable {pad : List Char} (hpad : ∀ c ∈ pad, isPadding c = true)

include hpad

theorem trim_pad (line : List Char) : trim (pad ++ line) = trim line := by
  unfold trim trimStart
  rw [List.dropWhile_append_of_pos hpad]

theorem find?_pad (line : List Char) : Dialogue.find? (pad ++ line) = Dialogue.find? line := by
  induction pad with
  | nil => rfl
  | cons c pad ih =>
    have hc : c ≠ '-' := by
      rintro rfl
      exact absurd (hpad '-' List.mem_cons_self) (by decide)
    rw [List.cons_append, find?_cons, if_neg hc, Option.none_or]
    exact ih fun d hd => hpad d (List.mem_cons_of_mem c hd)

theorem checkDialogue_pad (line : List Char) (index : Nat) :
    checkDialogue (pad ++ line) index = (checkDialogue line index).map (Diagnostic.pushed (columns pad).toUInt32) := by
  have hpadColon : ':' ∉ pad := not_mem_of_padding hpad (by decide)
  have hpadOpen : '(' ∉ pad := not_mem_of_padding hpad (by decide)
  by_cases hcolon : ':' ∈ line
  · obtain ⟨before, after, hcut⟩ := exists_cut hcolon
    have hcut' : cut ':' (pad ++ line) = some (pad ++ before, after) := by
      rw [cut_append_right hpadColon, hcut]
      rfl
    rw [checkDialogue_of_cut hcut', checkDialogue_of_cut hcut, stripComment_append hpadOpen, find?_pad hpad]
    split
    · have hcolumns : (columns (pad ++ before)).toUInt32 = (columns before).toUInt32 + (columns pad).toUInt32 := by
        rw [columns_append, Nat.add_comm]
        exact UInt32.ofNat_add _ _
      rw [hcolumns, List.map_singleton, pushed_missingCharacterAt]
    · rfl
  · rw [checkDialogue_of_not_mem hcolon, checkDialogue_of_not_mem (by simp [hpadColon, hcolon]), List.map_singleton,
      pushed_missingColonAt]

/-- **Padding in front of a line moves the mark of a missing speaker** and changes nothing else. -/
theorem diagnose_pad (line : List Char) (index : Nat) :
    diagnose (pad ++ line) index = (diagnose line index).map (Diagnostic.pushed (columns pad).toUInt32) := by
  rw [diagnose_eq, diagnose_eq, trim_pad hpad, checkDialogue_pad hpad]
  split <;> rfl

end Padded

/-- A report moved by a byte order mark at the start of its script. -/
def Diagnostic.marked (d : Diagnostic) : Diagnostic := if d.index = 0 then d.pushed 1 else d

/-- **A byte order mark at the start of a script moves marks on its first line.** -/
theorem problems_mark (s : List Char) : problems (byteOrderMark :: s) = (problems s).map Diagnostic.marked := by
  obtain ⟨first, rest, hlines⟩ := List.exists_cons_of_ne_nil (lines_ne_nil s)
  have hmarked : lines (byteOrderMark :: s) = (byteOrderMark :: first) :: rest := by
    rw [lines_cons (by decide) (by decide), hlines]
    rfl
  have hfirst : diagnose (byteOrderMark :: first) 0 = (diagnose first 0).map Diagnostic.marked := by
    have hpad : ∀ c ∈ [byteOrderMark], isPadding c = true := by
      intro c hc
      rw [List.mem_singleton.1 hc]
      decide
    refine (diagnose_pad hpad first 0).trans (List.map_congr_left fun d hd => ?_)
    rw [Diagnostic.marked, if_pos (index_of_mem_diagnose hd)]
    rfl
  have hrest : (problemsFrom 1 rest).map Diagnostic.marked = problemsFrom 1 rest := by
    refine (List.map_congr_left fun d hd => ?_).trans (List.map_id _)
    obtain ⟨line, -, i, hi, hdiagnose⟩ := exists_of_mem_problemsFrom hd
    have hindex := index_of_mem_diagnose hdiagnose
    rw [Diagnostic.marked, if_neg (by omega)]
    rfl
  rw [problems, problems, hmarked, hlines, problemsFrom_cons, problemsFrom_cons, List.map_append,
    hfirst, hrest]

end DialogueScript
