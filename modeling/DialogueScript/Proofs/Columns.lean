import DialogueScript.Proofs.Padding

/-!
# The columns of a mark

Columns count UTF-16 code units. A character beyond the basic plane takes two of them, a pair of surrogates, and a
column can fall between the two: exactly one column behind the beginning of such a character (`splitsPair_iff`).

* A warning ends at the first colon of the line as written, on its code unit (`warning_marks_first_colon`). It begins
  two columns before, without a look at the characters there.
* So the end of a warning is never inside a character, and its beginning is exactly when the second character before the
  colon takes two columns and the first takes one. An error always marks the first two columns, and its end is inside a
  character exactly when one of two columns follows the leading dash (`marks_split_pair_iff`). Both happen
  (`marks_split_pairs`).
-/

namespace DialogueScript

/-! ## Code units of characters -/

section Units

variable {c : Char} {s : List Char}

theorem charUnits_narrow (hc : c.toNat < 0x10000) : charUnits c = [c.toNat.toUInt16] := by
  simp [charUnits, hc]

theorem charUnits_wide (hc : 0x10000 ≤ c.toNat) : charUnits c =
    [(0xD800 + (c.toNat - 0x10000) / 0x400).toUInt16, (0xDC00 + (c.toNat - 0x10000) % 0x400).toUInt16] := by
  simp [charUnits, Nat.not_lt.2 hc]

theorem utf16_cons (c : Char) (s : List Char) : utf16 (c :: s) = charUnits c ++ utf16 s := rfl

theorem utf16_append (s t : List Char) : utf16 (s ++ t) = utf16 s ++ utf16 t := List.flatMap_append

theorem columns_singleton_narrow (hc : c.toNat < 0x10000) : columns [c] = 1 := by
  simp [columns, utf16, charUnits_narrow hc]

theorem columns_singleton_wide (hc : 0x10000 ≤ c.toNat) : columns [c] = 2 := by
  simp [columns, utf16, charUnits_wide hc]

theorem columns_singleton_pos (c : Char) : 0 < columns [c] := by
  rcases Nat.lt_or_ge c.toNat 0x10000 with hc | hc
  · rw [columns_singleton_narrow hc]
    omega
  · rw [columns_singleton_wide hc]
    omega

theorem columns_pos (h : s ≠ []) : 0 < columns s := by
  obtain ⟨c, rest, rfl⟩ := List.exists_cons_of_ne_nil h
  rw [columns_cons]
  exact Nat.add_pos_left (columns_singleton_pos c) _

/-- One column is one character of the basic plane. -/
theorem columns_eq_one_iff : columns s = 1 ↔ ∃ c, s = [c] ∧ c.toNat < 0x10000 := by
  constructor
  · intro h
    cases s with
    | nil => cases h
    | cons c rest =>
      rw [columns_cons] at h
      have hpos := columns_singleton_pos c
      have hrest : rest = [] := by
        by_contra hne
        have := columns_pos hne
        omega
      refine ⟨c, by rw [hrest], Nat.lt_of_not_le fun hc => ?_⟩
      rw [columns_singleton_wide hc] at h
      omega
  · rintro ⟨c, rfl, hc⟩
    exact columns_singleton_narrow hc

/-- Characters are not surrogates. -/
theorem toNat_lt_or_gt (c : Char) : c.toNat < 0xD800 ∨ 0xDFFF < c.toNat ∧ c.toNat < 0x110000 := c.valid

end Units

/-! ## Surrogate pairs -/

section Pairs

/-- The first half of a surrogate pair. -/
def isHighSurrogate (u : UInt16) : Bool := 0xD800 ≤ u.toNat && u.toNat < 0xDC00

/-- The second half of a surrogate pair. -/
def isLowSurrogate (u : UInt16) : Bool := 0xDC00 ≤ u.toNat && u.toNat < 0xE000

/-- Whether a column falls between the two halves of a surrogate pair. -/
def splitsPair (s : List Char) : Nat → Bool
  | 0 => false
  | n + 1 => (utf16 s)[n]?.any isHighSurrogate && (utf16 s)[n + 1]?.any isLowSurrogate

variable {c : Char} {s : List Char}

theorem isHighSurrogate_narrow (hc : c.toNat < 0x10000) : isHighSurrogate c.toNat.toUInt16 = false := by
  have hunit : c.toNat.toUInt16.toNat = c.toNat := UInt16.toNat_ofNat_of_lt' hc
  have hvalid := toNat_lt_or_gt c
  simp only [isHighSurrogate, hunit, Bool.and_eq_false_iff, decide_eq_false_iff_not]
  omega

/-- The two units of a character beyond the basic plane are the halves of a pair, in this order. -/
theorem exists_halves (hc : 0x10000 ≤ c.toNat) :
    ∃ high low, charUnits c = [high, low] ∧ isHighSurrogate high = true ∧ isLowSurrogate low = true ∧
      isHighSurrogate low = false := by
  have hvalid := toNat_lt_or_gt c
  have hhigh : (0xD800 + (c.toNat - 0x10000) / 0x400).toUInt16.toNat = 0xD800 + (c.toNat - 0x10000) / 0x400 :=
    UInt16.toNat_ofNat_of_lt' (show _ < 65536 by omega)
  have hlow : (0xDC00 + (c.toNat - 0x10000) % 0x400).toUInt16.toNat = 0xDC00 + (c.toNat - 0x10000) % 0x400 :=
    UInt16.toNat_ofNat_of_lt' (show _ < 65536 by omega)
  refine ⟨_, _, charUnits_wide hc, ?_, ?_, ?_⟩
  · simp only [isHighSurrogate, hhigh, Bool.and_eq_true, decide_eq_true_eq]
    omega
  · simp only [isLowSurrogate, hlow, Bool.and_eq_true, decide_eq_true_eq]
    omega
  · simp only [isHighSurrogate, hlow, Bool.and_eq_false_iff, decide_eq_false_iff_not]
    omega

theorem splitsPair_second (hc : 0x10000 ≤ c.toNat) (s : List Char) : splitsPair (c :: s) 1 = true := by
  obtain ⟨high, low, hunits, hhigh, hlow, -⟩ := exists_halves hc
  simp [splitsPair, utf16_cons, hunits, hhigh, hlow]

/-- Behind its first character a text is split where the rest of it is. The last unit of that character is never the
first half of a pair. -/
theorem splitsPair_cons (c : Char) (s : List Char) (n : Nat) :
    splitsPair (c :: s) (columns [c] + n) = splitsPair s n := by
  rcases Nat.lt_or_ge c.toNat 0x10000 with hc | hc
  · rw [columns_singleton_narrow hc, Nat.add_comm]
    cases n with
    | zero => simp [splitsPair, utf16_cons, charUnits_narrow hc, isHighSurrogate_narrow hc]
    | succ n => simp [splitsPair, utf16_cons, charUnits_narrow hc]
  · obtain ⟨high, low, hunits, -, -, hlow⟩ := exists_halves hc
    rw [columns_singleton_wide hc, Nat.add_comm]
    cases n with
    | zero => simp [splitsPair, utf16_cons, hunits, hlow]
    | succ n => simp [splitsPair, utf16_cons, hunits]

/-- **A column splits a pair exactly when it is the second column of a character.** -/
theorem splitsPair_iff {n : Nat} : splitsPair s n = true ↔
    ∃ before c after, s = before ++ c :: after ∧ 0x10000 ≤ c.toNat ∧ n = columns before + 1 := by
  induction s generalizing n with
  | nil =>
    have hnil : splitsPair [] n = false := by cases n <;> rfl
    simp [hnil]
  | cons d s ih =>
    constructor
    · intro h
      by_cases hn : columns [d] ≤ n
      · obtain ⟨m, rfl⟩ := Nat.exists_eq_add_of_le hn
        rw [splitsPair_cons] at h
        obtain ⟨before, c, after, rfl, hc, rfl⟩ := ih.1 h
        refine ⟨d :: before, c, after, rfl, hc, ?_⟩
        rw [columns_cons d before, Nat.add_assoc]
      · -- the column is one of the first character, and not its first one
        have hpos : n ≠ 0 := by
          rintro rfl
          cases h
        have hd : 0x10000 ≤ d.toNat := by
          by_contra hnarrow
          rw [columns_singleton_narrow (Nat.lt_of_not_le hnarrow)] at hn
          omega
        rw [columns_singleton_wide hd] at hn
        exact ⟨[], d, s, rfl, hd, show n = 1 by omega⟩
    · rintro ⟨before, c, after, hs, hc, rfl⟩
      cases before with
      | nil =>
        cases hs
        exact splitsPair_second hc s
      | cons b before =>
        cases hs
        rw [columns_cons, Nat.add_assoc, splitsPair_cons]
        exact ih.2 ⟨before, c, after, rfl, hc, rfl⟩

/-- What splits a pair in front of a place of the text does not depend on what stands behind that place. -/
theorem splitsPair_append_left {before : List Char} {n : Nat} (hn : n ≤ columns before) (rest : List Char) :
    splitsPair (before ++ rest) n = splitsPair before n := by
  rw [Bool.eq_iff_iff, splitsPair_iff, splitsPair_iff]
  constructor
  · rintro ⟨x, c, y, heq, hc, rfl⟩
    rcases List.append_eq_append_iff.1 heq with ⟨t, rfl, -⟩ | ⟨t, rfl, ht⟩
    · -- the character would begin behind `before`
      rw [columns_append] at hn
      omega
    · cases t with
      | nil =>
        rw [List.append_nil] at hn
        omega
      | cons d t =>
        cases ht
        exact ⟨x, c, t, rfl, hc, rfl⟩
  · rintro ⟨x, c, y, rfl, hc, rfl⟩
    exact ⟨x, c, y ++ rest, by simp, hc, rfl⟩

theorem splitsPair_columns (s : List Char) : splitsPair s (columns s) = false := by
  cases hs : columns s with
  | zero => rfl
  | succ n =>
    have hend : (utf16 s)[n + 1]? = none := List.getElem?_eq_none (Nat.le_of_eq hs)
    simp [splitsPair, hend]

end Pairs

/-! ## The first colon -/

section Colon

variable {s before after : List Char}

/-- Only a colon has the code unit of a colon. -/
theorem colon_mem_utf16_iff : 0x3A ∈ utf16 s ↔ ':' ∈ s := by
  constructor
  · intro h
    obtain ⟨c, hc, hunit⟩ := List.mem_flatMap.1 h
    suffices hcolon : c = ':' by rwa [hcolon] at hc
    rcases Nat.lt_or_ge c.toNat 0x10000 with hnarrow | hwide
    · rw [charUnits_narrow hnarrow, List.mem_singleton] at hunit
      have hnat := congrArg UInt16.toNat hunit
      rw [UInt16.toNat_ofNat_of_lt' hnarrow] at hnat
      exact Char.toNat_inj.1 hnat.symm
    · obtain ⟨high, low, hunits, hhigh, hlow, -⟩ := exists_halves hwide
      rw [hunits, List.mem_pair] at hunit
      rcases hunit with rfl | rfl
      · cases hhigh
      · cases hlow
  · intro h
    exact List.mem_flatMap.2 ⟨':', h, by decide⟩

/-- The first colon of a text is its first code unit of a colon. -/
theorem first_colon_unit (hcut : cut ':' s = some (before, after)) :
    (utf16 s)[columns before]? = some 0x3A ∧ ∀ i < columns before, (utf16 s)[i]? ≠ some 0x3A := by
  obtain ⟨hbefore, rfl⟩ := cut_eq_some_iff.1 hcut
  have hunits : utf16 (before ++ ':' :: after) = utf16 before ++ 0x3A :: utf16 after := by
    rw [utf16_append, utf16_cons]
    rfl
  rw [hunits]
  refine ⟨by simp [columns], fun i hi h => ?_⟩
  rw [List.getElem?_append_left hi] at h
  exact hbefore (colon_mem_utf16_iff.1 (List.mem_of_getElem? h))

end Colon

/-! ## Marks -/

section Marks

variable {line before after : List Char} {index : Nat} {d : Diagnostic}

/-- A line that is reported begins with its dash or with padding, so not with a colon. -/
theorem cut_colon_ne_nil (hdash : (trim line).head? = some '-') (hcut : cut ':' line = some (before, after)) :
    before ≠ [] := by
  rintro rfl
  obtain ⟨pad, s, hpad, hline⟩ := exists_pad_of_trim hdash
  obtain ⟨-, hcolon⟩ := cut_eq_some_iff.1 hcut
  rw [hline] at hcolon
  cases pad with
  | nil => cases hcolon
  | cons p pad =>
    cases hcolon
    exact absurd (hpad ':' List.mem_cons_self) (by decide)

/-- **A warning points at the first colon of its line as written.** It ends at the code unit of that colon and begins
two columns before, or at the start of the line. On a line that is classified as a dialogue something stands in front of
the colon. -/
theorem warning_marks_first_colon (hsize : columns line < UInt32.size) (hd : d ∈ checkDialogue line index)
    (hwarning : d.severity = .warning) :
    (utf16 line)[d.range.stop.character.toNat]? = some 0x3A ∧
      (∀ i < d.range.stop.character.toNat, (utf16 line)[i]? ≠ some 0x3A) ∧
      d.range.start.character.toNat = d.range.stop.character.toNat - 2 ∧
      d.range.start.line.toNat = index % UInt32.size ∧ d.range.stop.line.toNat = index % UInt32.size ∧
      (d ∈ diagnose line index → 1 ≤ d.range.stop.character.toNat) := by
  rcases checkDialogue_cases hd with ⟨-, rfl⟩ | ⟨before, after, hcut, rfl⟩
  · cases hwarning
  · have hcolumn := toNat_columns_of_cut hcut hsize
    obtain ⟨hunit, hfirst⟩ := first_colon_unit hcut
    simp only [missingCharacterAt, Range.onLine, hcolumn]
    refine ⟨hunit, hfirst, ?_, UInt32.toNat_ofNat, UInt32.toNat_ofNat, fun hdiagnose => ?_⟩
    · rw [toNat_twoBefore, hcolumn]
    · exact columns_pos (cut_colon_ne_nil (mem_diagnose_iff.1 hdiagnose).1 hcut)

/-- The first colon of this line stands in its comment, behind a byte order mark and a character of two columns. -/
def asideWithColon : List Char := "\uFEFF-<😀>(a:b): x".toList

/-- The colon in the comment is marked, on a line whose number does not fit in 32 bits. -/
theorem colon_of_aside_is_marked :
    let d := missingCharacterAt (UInt32.size + 5) 8
    columns asideWithColon < UInt32.size ∧ d ∈ diagnose asideWithColon (UInt32.size + 5) ∧
      (utf16 asideWithColon)[8]? = some 0x3A ∧ (∀ i < 8, (utf16 asideWithColon)[i]? ≠ some 0x3A) ∧
      d.range.start.character.toNat = 6 ∧ d.range.start.line.toNat = 5 ∧ 1 ≤ d.range.stop.character.toNat := by
  intro d
  have hsize : columns asideWithColon < UInt32.size := by decide
  have hdiagnose : d ∈ diagnose asideWithColon (UInt32.size + 5) := by decide
  have hcheck : d ∈ checkDialogue asideWithColon (UInt32.size + 5) := by decide
  obtain ⟨hunit, hfirst, hstart, hline, -, hpos⟩ := warning_marks_first_colon hsize hcheck rfl
  exact ⟨hsize, hdiagnose, hunit, hfirst, hstart, hline, hpos hdiagnose⟩

theorem isPadding_narrow {c : Char} (h : isPadding c = true) : c.toNat < 0x10000 := by
  by_cases hmark : c = byteOrderMark
  · rw [hmark]
    decide
  · simp [isPadding, isBlank, hmark] at h
    omega

/-- The two columns of an error split a pair exactly when a character of two columns follows the leading dash. -/
theorem splitsPair_two_iff (hdash : (trim line).head? = some '-') :
    splitsPair line 2 = true ↔ ∃ c rest, line = '-' :: c :: rest ∧ 0x10000 ≤ c.toNat := by
  rw [splitsPair_iff]
  constructor
  · rintro ⟨before, c, rest, hline, hc, hcolumns⟩
    obtain ⟨b, rfl, -⟩ := columns_eq_one_iff.1 (Nat.succ.inj hcolumns).symm
    obtain ⟨pad, s, hpad, rfl⟩ := exists_pad_of_trim hdash
    -- a dash and padding are no characters of two columns, so the dash comes first
    rcases pad with _ | ⟨p, _ | ⟨q, pad⟩⟩
    · cases hline
      exact ⟨c, rest, rfl, hc⟩
    · cases hline
      exact absurd hc (by decide)
    · cases hline
      have hnarrow := isPadding_narrow (hpad c (by simp))
      omega
  · rintro ⟨c, rest, rfl, hc⟩
    exact ⟨['-'], c, rest, rfl, hc, rfl⟩

/-- Two columns before the colon split a pair exactly between a character of two columns and one of one. -/
theorem splitsPair_before_colon_iff (hcut : cut ':' line = some (before, after)) :
    splitsPair line (columns before - 2) = true ↔
      ∃ x c c' y, line = x ++ c :: c' :: ':' :: y ∧ ':' ∉ x ++ [c, c'] ∧ 0x10000 ≤ c.toNat ∧ c'.toNat < 0x10000 := by
  obtain ⟨hbefore, rfl⟩ := cut_eq_some_iff.1 hcut
  rw [splitsPair_append_left (Nat.sub_le _ _), splitsPair_iff]
  constructor
  · rintro ⟨x, c, t, rfl, hc, hcolumns⟩
    have hone : columns t = 1 := by
      rw [columns_append, columns_cons, columns_singleton_wide hc] at hcolumns
      omega
    obtain ⟨c', rfl, hc'⟩ := columns_eq_one_iff.1 hone
    exact ⟨x, c, c', after, by simp, hbefore, hc, hc'⟩
  · rintro ⟨x, c, c', y, hline, hx, hc, hc'⟩
    have hcut' : cut ':' (before ++ ':' :: after) = some (x ++ [c, c'], y) :=
      cut_eq_some_iff.2 ⟨hx, by simp [hline]⟩
    rw [hcut] at hcut'
    cases hcut'
    refine ⟨x, c, [c'], rfl, hc, ?_⟩
    rw [columns_append, columns_cons, columns_singleton_wide hc, columns_singleton_narrow hc']
    omega

/-- **Where a mark falls inside a character.** A mark never ends before it begins, an error begins and a warning ends
between two characters. The other end of an error falls inside a character exactly when the line begins with a dash and
a character of two columns, and the other end of a warning exactly when the last two characters before the first colon
take two columns and one. -/
theorem marks_split_pair_iff (hsize : columns line < UInt32.size) (hd : d ∈ diagnose line index) :
    d.range.start.character ≤ d.range.stop.character ∧
      (d.severity = .error →
        splitsPair line d.range.start.character.toNat = false ∧
          (splitsPair line d.range.stop.character.toNat = true ↔
            ∃ c rest, line = '-' :: c :: rest ∧ 0x10000 ≤ c.toNat)) ∧
      (d.severity = .warning →
        splitsPair line d.range.stop.character.toNat = false ∧
          (splitsPair line d.range.start.character.toNat = true ↔
            ∃ x c c' y, line = x ++ c :: c' :: ':' :: y ∧ ':' ∉ x ++ [c, c'] ∧ 0x10000 ≤ c.toNat ∧
              c'.toNat < 0x10000)) := by
  obtain ⟨hdash, hcheck⟩ := mem_diagnose_iff.1 hd
  rcases checkDialogue_cases hcheck with ⟨-, rfl⟩ | ⟨before, after, hcut, rfl⟩
  · have horder : (0 : UInt32) ≤ 2 := by decide
    exact ⟨horder, fun _ => ⟨rfl, splitsPair_two_iff hdash⟩, nofun⟩
  · have hcolumn := toNat_columns_of_cut hcut hsize
    have hstart : (twoBefore (columns before).toUInt32).toNat = columns before - 2 := by
      rw [toNat_twoBefore, hcolumn]
    simp only [missingCharacterAt, Range.onLine, UInt32.le_iff_toNat_le, hcolumn, hstart]
    refine ⟨Nat.sub_le _ _, nofun, fun _ => ⟨?_, splitsPair_before_colon_iff hcut⟩⟩
    obtain ⟨-, rfl⟩ := cut_eq_some_iff.1 hcut
    rw [splitsPair_append_left (Nat.le_refl _)]
    exact splitsPair_columns before

/-- A character of two columns in a tag, right before its bracket and the colon. -/
def emojiTagLine : List Char := "-<😀>: hi".toList

/-- A character of two columns behind the leading dash, and no colon. -/
def emojiBareLine : List Char := "-😀".toList

/-- In both lines a mark falls inside the character of two columns. -/
theorem emoji_marks_split_pair :
    (columns emojiTagLine < UInt32.size ∧ missingCharacterAt 0 5 ∈ diagnose emojiTagLine 0 ∧
        splitsPair emojiTagLine (missingCharacterAt 0 5).range.stop.character.toNat = false ∧
        splitsPair emojiTagLine (missingCharacterAt 0 5).range.start.character.toNat = true) ∧
      columns emojiBareLine < UInt32.size ∧ missingColonAt 0 ∈ diagnose emojiBareLine 0 ∧
        splitsPair emojiBareLine (missingColonAt 0).range.start.character.toNat = false ∧
        splitsPair emojiBareLine (missingColonAt 0).range.stop.character.toNat = true := by
  have htagged : columns emojiTagLine < UInt32.size := by decide
  have hbare : columns emojiBareLine < UInt32.size := by decide
  have hwarning : missingCharacterAt 0 5 ∈ diagnose emojiTagLine 0 := by decide
  have herror : missingColonAt 0 ∈ diagnose emojiBareLine 0 := by decide
  obtain ⟨hstop, hstart⟩ := (marks_split_pair_iff htagged hwarning).2.2 rfl
  obtain ⟨hstart', hstop'⟩ := (marks_split_pair_iff hbare herror).2.1 rfl
  refine ⟨⟨htagged, hwarning, hstop, hstart.2 ?_⟩, hbare, herror, hstart', hstop'.2 ?_⟩
  · exact ⟨['-', '<'], '😀', '>', " hi".toList, by decide, by decide, by decide, by decide⟩
  · exact ⟨'😀', [], by decide, by decide⟩

/-- Both kinds of marks may fall inside a character: a warning with its beginning, an error with its end. -/
theorem marks_split_pairs :
    (columns emojiTagLine < UInt32.size ∧ diagnose emojiTagLine 0 = [missingCharacterAt 0 5] ∧
        splitsPair emojiTagLine (missingCharacterAt 0 5).range.start.character.toNat = true) ∧
      columns emojiBareLine < UInt32.size ∧ diagnose emojiBareLine 0 = [missingColonAt 0] ∧
        splitsPair emojiBareLine (missingColonAt 0).range.stop.character.toNat = true := by
  decide

end Marks

end DialogueScript
