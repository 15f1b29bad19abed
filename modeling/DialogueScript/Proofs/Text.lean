import Mathlib.Data.List.DropRight
import Mathlib.Data.List.TakeWhile
import DialogueScript.Text.Blank
import DialogueScript.Text.Cut

/-!
# Cuts, blanks and padding

What the operations on texts do, said without their recursion.

* `cut` finds the first occurrence of an element: `cut_eq_some_iff`, `cut_eq_none_iff`, and `cut_append_left`,
  `cut_append_right`, `cut_append_of_not_mem` for a text in two pieces. `splitOn` splits at every occurrence
  (`splitOn_append`, `not_mem_of_mem_splitOn`).
* `skipBlanks` removes a gap (`skipBlanks_gap`) and stops at whatever is not blank (`skipBlanks_cons`).
* A line whose first character behind its padding is no padding keeps that character when it is trimmed
  (`exists_trim_eq`), and what a trimmed line begins with stood behind padding (`exists_pad_of_trim`).
-/

namespace DialogueScript

/-! ## Cuts -/

section Cuts

variable {α : Type} [DecidableEq α] {c : α} {s before after : List α}

theorem cut_eq_none_iff : cut c s = none ↔ c ∉ s := by
  induction s with
  | nil => simp [cut]
  | cons d rest ih =>
    by_cases h : d = c
    · simp [cut, h]
    · have h' : c ≠ d := fun e => h e.symm
      simp [cut, h, h', ih]

/-- A cut stands at the first occurrence. -/
theorem cut_eq_some_iff : cut c s = some (before, after) ↔ c ∉ before ∧ s = before ++ c :: after := by
  induction s generalizing before with
  | nil => simp [cut]
  | cons d rest ih =>
    by_cases h : d = c
    · subst h
      cases before with
      | nil => simp [cut]
      | cons e before => simp +contextual [cut]
    · have h' : c ≠ d := fun e => h e.symm
      cases before with
      | nil => simp [cut, h]
      | cons e before =>
        simp only [cut, h, if_false, Option.map_eq_some_iff, Prod.exists, Prod.mk.injEq, List.cons.injEq,
          List.mem_cons, not_or, List.cons_append]
        constructor
        · rintro ⟨a, b, hab, ⟨rfl, rfl⟩, rfl⟩
          obtain ⟨hc, hs⟩ := ih.1 hab
          exact ⟨⟨h', hc⟩, rfl, hs⟩
        · rintro ⟨⟨_, hc⟩, rfl, hs⟩
          exact ⟨before, after, ih.2 ⟨hc, hs⟩, ⟨rfl, rfl⟩, rfl⟩

/-- What stands in front of the first occurrence is passed over. -/
theorem cut_append_right {x : List α} (h : c ∉ x) (s : List α) :
    cut c (x ++ s) = (cut c s).map fun (before, after) => (x ++ before, after) := by
  cases hs : cut c s with
  | none => simpa [cut_eq_none_iff, h] using hs
  | some pair =>
    obtain ⟨before, after⟩ := pair
    obtain ⟨hb, rfl⟩ := cut_eq_some_iff.1 hs
    exact cut_eq_some_iff.2 ⟨by simp [h, hb], by simp⟩

/-- Behind the first occurrence anything may follow. -/
theorem cut_append_left {x : List α} (h : cut c x = some (before, after)) (s : List α) :
    cut c (x ++ s) = some (before, after ++ s) := by
  obtain ⟨hb, rfl⟩ := cut_eq_some_iff.1 h
  exact cut_eq_some_iff.2 ⟨hb, by simp⟩

/-- Text without the element lengthens what stands behind the cut, and cuts nothing. -/
theorem cut_append_of_not_mem {y : List α} (h : c ∉ y) (x : List α) :
    cut c (x ++ y) = (cut c x).map fun (before, after) => (before, after ++ y) := by
  cases hx : cut c x with
  | none =>
    have hx' : c ∉ x := cut_eq_none_iff.1 hx
    simp [cut_eq_none_iff, hx', h]
  | some pair => exact cut_append_left hx y

theorem exists_cut (h : c ∈ s) : ∃ before after, cut c s = some (before, after) := by
  cases hs : cut c s with
  | none => exact absurd h (cut_eq_none_iff.1 hs)
  | some pair => exact ⟨pair.1, pair.2, rfl⟩

/-! ### Pieces -/

theorem splitOn_ne_nil (c : α) (s : List α) : splitOn c s ≠ [] := by
  cases s with
  | nil => simp [splitOn]
  | cons d s =>
    unfold splitOn
    split
    · simp
    · cases splitOn c s <;> simp [consHead]

omit [DecidableEq α] in
theorem consHead_append {pieces : List (List α)} (d : α) (h : pieces ≠ []) (more : List (List α)) :
    consHead d (pieces ++ more) = consHead d pieces ++ more := by
  cases pieces with
  | nil => exact absurd rfl h
  | cons piece pieces => rfl

/-- An occurrence separates the pieces in front of it from those behind it. -/
theorem splitOn_append (c : α) (s t : List α) : splitOn c (s ++ c :: t) = splitOn c s ++ splitOn c t := by
  induction s with
  | nil => simp [splitOn]
  | cons d s ih =>
    by_cases hd : d = c
    · simp [splitOn, hd, ih]
    · simp only [List.cons_append, splitOn, hd, if_false, ih]
      exact consHead_append d (splitOn_ne_nil c s) (splitOn c t)

theorem splitOn_of_not_mem (h : c ∉ s) : splitOn c s = [s] := by
  induction s with
  | nil => rfl
  | cons d s ih =>
    have hd : d ≠ c := fun e => h (by simp [e])
    simp only [splitOn, hd, if_false, ih fun hs => h (List.mem_cons_of_mem d hs), consHead]

theorem not_mem_of_mem_splitOn {piece : List α} (h : piece ∈ splitOn c s) : c ∉ piece := by
  induction s generalizing piece with
  | nil => simp_all [splitOn]
  | cons d s ih =>
    unfold splitOn at h
    split at h
    · rcases List.mem_cons.1 h with rfl | h
      · simp
      · exact ih h
    · rename_i hd
      cases hs : splitOn c s with
      | nil => exact absurd hs (splitOn_ne_nil c s)
      | cons first pieces =>
        rw [hs] at h ih
        rcases List.mem_cons.1 h with rfl | h
        · have hfirst := ih List.mem_cons_self
          simp [Ne.symm hd, hfirst]
        · exact ih (List.mem_cons_of_mem first h)

end Cuts

/-! ## Blanks -/

section Blanks

variable {c : Char} {w s : List Char}

theorem skipBlanks_gap (hw : ∀ c ∈ w, isBlank c = true) (s : List Char) : skipBlanks (w ++ s) = skipBlanks s :=
  List.dropWhile_append_of_pos hw

theorem skipBlanks_cons (hc : isBlank c = false) (s : List Char) : skipBlanks (c :: s) = c :: s :=
  List.dropWhile_cons_of_neg (by simp [hc])

@[simp] theorem skipBlanks_skipBlanks (s : List Char) : skipBlanks (skipBlanks s) = skipBlanks s :=
  List.dropWhile_idempotent isBlank s

/-- Every text is a gap and what is left when its blanks are skipped. -/
theorem exists_gap (s : List Char) : ∃ w, (∀ c ∈ w, isBlank c = true) ∧ s = w ++ skipBlanks s :=
  ⟨s.takeWhile isBlank, fun _ hc => List.mem_takeWhile_imp hc, List.takeWhile_append_dropWhile.symm⟩

end Blanks

/-! ## Padding -/

section Padding

variable {c : Char} {pad : List Char}

/-- Trimming the end of a text stops at its first character at the latest, if that is no padding. -/
theorem exists_trimEnd_eq (hc : isPadding c = false) (s : List Char) : ∃ t, trimEnd (c :: s) = c :: t := by
  unfold trimEnd
  rw [List.reverse_cons, List.dropWhile_append]
  split
  · exact ⟨[], by simp [hc]⟩
  · exact ⟨(s.reverse.dropWhile isPadding).reverse, by simp⟩

theorem exists_trim_eq (hpad : ∀ c ∈ pad, isPadding c = true) (hc : isPadding c = false) (s : List Char) :
    ∃ t, trim (pad ++ c :: s) = c :: t := by
  have hstart : trimStart (pad ++ c :: s) = c :: s := by
    unfold trimStart
    rw [List.dropWhile_append_of_pos hpad]
    exact List.dropWhile_cons_of_neg (by simp [hc])
  unfold trim
  rw [hstart]
  exact exists_trimEnd_eq hc s

/-- What a trimmed line begins with has nothing but padding in front of it. -/
theorem exists_pad_of_trim {line : List Char} (h : (trim line).head? = some c) :
    ∃ pad s, (∀ d ∈ pad, isPadding d = true) ∧ line = pad ++ c :: s := by
  have hline : line = line.takeWhile isPadding ++ trimStart line := List.takeWhile_append_dropWhile.symm
  unfold trim at h
  cases hs : trimStart line with
  | nil =>
    rw [hs] at h
    cases h
  | cons d s =>
    have hd : isPadding d = false := by
      have hhead := List.head?_dropWhile_not isPadding line
      unfold trimStart at hs
      simpa [hs] using hhead
    obtain ⟨t, ht⟩ := exists_trimEnd_eq hd s
    rw [hs, ht] at h
    cases h
    rw [hs] at hline
    exact ⟨line.takeWhile isPadding, s, fun _ hc => List.mem_takeWhile_imp hc, hline⟩

theorem not_mem_of_padding (hpad : ∀ c ∈ pad, isPadding c = true) (hc : isPadding c = false) : c ∉ pad := by
  intro h
  rw [hpad c h] at hc
  cases hc

end Padding

end DialogueScript
