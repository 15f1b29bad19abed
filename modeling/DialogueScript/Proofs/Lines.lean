import DialogueScript.Proofs.Concatenation

/-!
# Lines and their endings

Lines may be joined by line feeds, with or without a carriage return in front of each. Whatever the mix, the text has
the lines it was joined from, as long as these do not look like endings themselves (`lines_joinLines`).

The other way round, the lines of a text joined by line feeds are the text without the carriage returns that end a line
(`intercalate_lines`). Only the last of several carriage returns ends a line, and one at the very end of the text does
so too.
-/

namespace DialogueScript

/-! ## Joining lines -/

section Joining

/-- How the end of a line is written. -/
inductive LineEnding where
  | feed
  | returnAndFeed

/-- The characters of a line ending. -/
def LineEnding.text : LineEnding → List Char
  | .feed => ['\n']
  | .returnAndFeed => ['\r', '\n']

/-- A line and further ones in one text, each of them behind the ending of the line before it. -/
def joinLines : List Char → List (LineEnding × List Char) → List Char
  | line, [] => line
  | line, (ending, next) :: more => line ++ ending.text ++ joinLines next more

/-- A line that is neither cut nor shortened when it is read back. -/
def IsWholeLine (line : List Char) : Prop := '\n' ∉ line ∧ line.getLast? ≠ some '\r'

variable {line : List Char}

theorem dropReturn_append_return (line : List Char) : dropReturn (line ++ ['\r']) = line := by
  unfold dropReturn
  rw [List.getLast?_concat, if_pos rfl, List.dropLast_concat]

theorem lines_of_isWholeLine (h : IsWholeLine line) : lines line = [line] := by
  unfold lines
  rw [splitOn_of_not_mem h.1, List.map_singleton, dropReturn, if_neg h.2]

theorem lines_append_return (h : '\n' ∉ line) : lines (line ++ ['\r']) = [line] := by
  have hfeed : '\n' ∉ line ++ ['\r'] := by simpa using h
  unfold lines
  rw [splitOn_of_not_mem hfeed, List.map_singleton, dropReturn_append_return]

/-- A line is read back in front of either ending. -/
theorem lines_append_ending (h : IsWholeLine line) (ending : LineEnding) (text : List Char) :
    lines (line ++ ending.text ++ text) = line :: lines text := by
  cases ending with
  | feed =>
    have hlines := lines_append line text
    rw [lines_of_isWholeLine h] at hlines
    simpa [LineEnding.text] using hlines
  | returnAndFeed =>
    have hlines := lines_append (line ++ ['\r']) text
    rw [lines_append_return h.1] at hlines
    simpa [LineEnding.text] using hlines

/-- **Joined lines are read back**, whatever endings stand between them. -/
theorem lines_joinLines {first : List Char} {more : List (LineEnding × List Char)} (hfirst : IsWholeLine first)
    (hmore : ∀ next ∈ more, IsWholeLine next.2) : lines (joinLines first more) = first :: more.map Prod.snd := by
  induction more generalizing first with
  | nil => exact lines_of_isWholeLine hfirst
  | cons next more ih =>
    have hnext := ih (hmore next List.mem_cons_self) fun later h => hmore later (List.mem_cons_of_mem next h)
    rw [joinLines, lines_append_ending hfirst, hnext, List.map_cons]

end Joining

/-! ## Putting lines together again -/

section Splitting

/-- Whether a line ends in front of a text: at a line feed, or at the end. -/
def EndsLine (text : List Char) : Prop := text.head? = none ∨ text.head? = some '\n'

instance : DecidablePred EndsLine := fun text => inferInstanceAs (Decidable (text.head? = none ∨ _))

/-- The text without the carriage returns that stand right at the end of a line. -/
def shedReturns : List Char → List Char
  | [] => []
  | c :: s => if c = '\r' ∧ EndsLine s then shedReturns s else c :: shedReturns s

variable {c : Char} {s piece : List Char} {pieces : List (List Char)}

theorem dropReturn_cons_of_ne_nil (c : Char) (h : piece ≠ []) : dropReturn (c :: piece) = c :: dropReturn piece := by
  obtain ⟨d, rest, rfl⟩ := List.exists_cons_of_ne_nil h
  unfold dropReturn
  rw [List.getLast?_cons_cons]
  split <;> rfl

/-- The first piece of a text is empty if a line ends in front of the text. -/
theorem endsLine_iff (h : splitOn '\n' s = piece :: pieces) : EndsLine s ↔ piece = [] := by
  cases s with
  | nil =>
    cases h
    simp [EndsLine]
  | cons d s =>
    unfold splitOn at h
    split at h
    · rename_i hd
      cases h
      simp [EndsLine, hd]
    · rename_i hd
      cases hs : splitOn '\n' s with
      | nil => exact absurd hs (splitOn_ne_nil '\n' s)
      | cons first rest =>
        rw [hs] at h
        cases h
        simp [EndsLine, hd]

theorem intercalate_cons_head (sep : List Char) (c : Char) (piece : List Char) (pieces : List (List Char)) :
    sep.intercalate ((c :: piece) :: pieces) = c :: sep.intercalate (piece :: pieces) := by
  cases pieces <;> simp [List.intercalate]

/-- **The lines of a text, joined by line feeds, are the text without the carriage returns that end a line.** The
induction is over the text; what is in front of the rest of a line goes into its first piece. -/
theorem intercalate_lines (text : List Char) : List.intercalate ['\n'] (lines text) = shedReturns text := by
  induction text with
  | nil => rfl
  | cons c s ih =>
    obtain ⟨piece, pieces, hs⟩ := List.exists_cons_of_ne_nil (splitOn_ne_nil '\n' s)
    have hlines : lines s = dropReturn piece :: pieces.map dropReturn := by rw [lines, hs, List.map_cons]
    unfold shedReturns
    rw [← ih]
    by_cases hn : c = '\n'
    · have hfeed : lines (c :: s) = [] :: lines s := by
        rw [hn]
        exact lines_append [] s
      rw [if_neg (by simp [hn]), hfeed, hlines, hn]
      simp [List.intercalate]
    · have hcons : lines (c :: s) = dropReturn (c :: piece) :: pieces.map dropReturn := by
        simp only [lines, splitOn, hn, if_false, hs, consHead, List.map_cons]
      rw [hcons, hlines]
      by_cases hpiece : piece = []
      · by_cases hr : c = '\r'
        · rw [if_pos ⟨hr, (endsLine_iff hs).2 hpiece⟩, hr, hpiece]
          rfl
        · rw [if_neg fun h => hr h.1, dropReturn_cons hr, intercalate_cons_head]
      · rw [if_neg fun h => hpiece ((endsLine_iff hs).1 h.2), dropReturn_cons_of_ne_nil c hpiece,
          intercalate_cons_head]

theorem length_lines (text : List Char) : (lines text).length = text.count '\n' + 1 := by
  unfold lines
  rw [List.length_map]
  induction text with
  | nil => rfl
  | cons c s ih =>
    unfold splitOn
    split
    · rename_i hc
      rw [List.length_cons, ih, hc, List.count_cons_self]
    · rename_i hc
      obtain ⟨piece, pieces, hs⟩ := List.exists_cons_of_ne_nil (splitOn_ne_nil '\n' s)
      rw [List.count_cons_of_ne hc, ← ih, hs]
      rfl

theorem not_mem_of_mem_lines {line text : List Char} (h : line ∈ lines text) : '\n' ∉ line := by
  obtain ⟨piece, hpiece, rfl⟩ := List.mem_map.1 h
  have hfeed := not_mem_of_mem_splitOn hpiece
  unfold dropReturn
  split
  · exact fun hmem => hfeed (List.dropLast_subset piece hmem)
  · exact hfeed

end Splitting

/-- **Splitting undoes joining.** Lines that hold no line feed and do not end in a carriage return are the lines of any
text that they are joined to, each line feed between them with or without a carriage return. And every text has one line
more than line feeds, no line holds one, and joined by line feeds the lines make up the text again, less one carriage
return in front of each line feed that has one, and less one at the very end if it is there. -/
theorem lines_undo_joining :
    (∀ (first : List Char) (more : List (LineEnding × List Char)),
      (∀ line ∈ first :: more.map Prod.snd, '\n' ∉ line ∧ line.getLast? ≠ some '\r') →
        lines (joinLines first more) = first :: more.map Prod.snd) ∧
      ∀ text : List Char, (lines text).length = text.count '\n' + 1 ∧ (∀ line ∈ lines text, '\n' ∉ line) ∧
        List.intercalate ['\n'] (lines text) = shedReturns text := by
  constructor
  · intro first more hlines
    obtain ⟨hfirst, hmore⟩ := List.forall_mem_cons.1 hlines
    exact lines_joinLines hfirst fun next hnext => hmore next.2 (List.mem_map_of_mem hnext)
  · intro text
    exact ⟨length_lines text, fun line hline => not_mem_of_mem_lines hline, intercalate_lines text⟩

/-- Both endings in one text, an empty line, a carriage return inside a line, and one at the end of the text. -/
theorem mixedEndings_undone :
    lines (joinLines "a\rb".toList [(.returnAndFeed, []), (.feed, "c".toList), (.returnAndFeed, [])]) =
        ["a\rb".toList, [], "c".toList, []] ∧
      List.intercalate ['\n'] (lines "a\r\r\n\nb\r".toList) = "a\r\n\nb".toList :=
  ⟨lines_undo_joining.1 "a\rb".toList [(.returnAndFeed, []), (.feed, "c".toList), (.returnAndFeed, [])] (by decide),
    (lines_undo_joining.2 "a\r\r\n\nb\r".toList).2.2⟩

end DialogueScript
