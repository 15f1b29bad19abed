import Mathlib.Data.List.Forall2
import DialogueScript.Proofs.Padding

/-!
# Padding on both sides of a line

Padding behind a line is never noticed. It is trimmed before the line is classified, it has no colon and no bracket, and
a header ends with a colon, so none reaches into it: whatever is read from the line alone is read from the longer line
at the same place (`diagnose_append_pad`). Together with padding in front, which moves the mark of a missing speaker
along with its colon (`diagnose_pad`), this says all about the margins of a line: `padding_moves_only_warnings`.
-/

namespace DialogueScript

/-! ## Headers in front of a text without a colon -/

section Headers

variable {s y rest : List Char}

theorem Header.getLast?_body (h : Header) : h.body.getLast? = some ':' := by
  simp [Header.body]

/-- A header ends with its colon, so it ends in front of a text that has none. -/
theorem Header.exists_rest_of_append (h : Header) (hy : ':' ∉ y) (heq : s ++ y = h.body ++ rest) :
    ∃ rest', s = h.body ++ rest' := by
  rcases List.append_eq_append_iff.1 heq with ⟨t, hbody, ht⟩ | ⟨t, hs, -⟩
  · cases ht' : t.getLast? with
    | none =>
      rw [List.getLast?_eq_none_iff.1 ht', List.append_nil] at hbody
      exact ⟨[], by rw [hbody, List.append_nil]⟩
    | some c =>
      -- the colon of the header would stand in `y`
      have hlast := h.getLast?_body
      rw [hbody, List.getLast?_append, ht'] at hlast
      cases hlast
      have hmem : ':' ∈ y := by
        rw [ht]
        exact List.mem_append_left rest (List.mem_of_getLast? ht')
      exact absurd hmem hy
  · exact ⟨t, hs⟩

theorem character_afterDash?_append (hy : ':' ∉ y) (s : List Char) :
    (Dialogue.afterDash? (s ++ y)).map Dialogue.character = (Dialogue.afterDash? s).map Dialogue.character := by
  cases hs : Dialogue.afterDash? s with
  | some d =>
    obtain ⟨h, rest, rfl⟩ := exists_header_of_afterDash? hs
    rw [afterDash?_body] at hs
    cases hs
    rw [List.append_assoc, afterDash?_body]
    rfl
  | none =>
    cases hsy : Dialogue.afterDash? (s ++ y) with
    | none => rfl
    | some d =>
      obtain ⟨h, rest, heq⟩ := exists_header_of_afterDash? hsy
      obtain ⟨rest', rfl⟩ := h.exists_rest_of_append hy heq
      rw [afterDash?_body] at hs
      cases hs

/-- A text without a colon does not change who speaks in front of it. -/
theorem character_find?_append (hy : ':' ∉ y) (s : List Char) :
    (Dialogue.find? (s ++ y)).map Dialogue.character = (Dialogue.find? s).map Dialogue.character := by
  induction s with
  | nil =>
    rw [List.nil_append, find?_of_not_mem hy]
    rfl
  | cons c s ih =>
    rw [List.cons_append, find?_cons, find?_cons, Option.map_or, Option.map_or, ih]
    by_cases hc : c = '-'
    · rw [if_pos hc, if_pos hc, character_afterDash?_append hy]
    · rw [if_neg hc, if_neg hc]

end Headers

/-! ## Padding behind a line -/

section Behind

variable {pad : List Char} (hpad : ∀ c ∈ pad, isPadding c = true)

include hpad

theorem trimEnd_append_pad (s : List Char) : trimEnd (s ++ pad) = trimEnd s := by
  have hpad' : ∀ c ∈ pad.reverse, isPadding c = true := fun c hc => hpad c (List.mem_reverse.1 hc)
  unfold trimEnd
  rw [List.reverse_append, List.dropWhile_append_of_pos hpad']

theorem trim_append_pad (line : List Char) : trim (line ++ pad) = trim line := by
  unfold trim trimStart
  rw [List.dropWhile_append]
  split
  · rename_i hempty
    rw [List.isEmpty_iff.1 hempty, List.dropWhile_eq_nil_iff.2 hpad]
  · exact trimEnd_append_pad hpad _

theorem checkDialogue_append_pad (line : List Char) (index : Nat) :
    checkDialogue (line ++ pad) index = checkDialogue line index := by
  have hcolon : ':' ∉ pad := not_mem_of_padding hpad (by decide)
  have hclose : ')' ∉ pad := not_mem_of_padding hpad (by decide)
  by_cases hline : ':' ∈ line
  · obtain ⟨before, after, hcut⟩ := exists_cut hline
    rw [checkDialogue_of_cut (cut_append_left hcut pad), checkDialogue_of_cut hcut,
      stripComment_append_of_not_mem hclose, character_find?_append hcolon]
  · rw [checkDialogue_of_not_mem hline, checkDialogue_of_not_mem (by simp [hline, hcolon])]

/-- **Padding behind a line changes nothing.** -/
theorem diagnose_append_pad (line : List Char) (index : Nat) :
    diagnose (line ++ pad) index = diagnose line index := by
  rw [diagnose_eq, diagnose_eq, trim_append_pad hpad, checkDialogue_append_pad hpad]

end Behind

/-! ## Padding on both sides -/

section Both

/-- How a report goes together with the report on the same line behind `n` columns of padding: they say the same of the
same line. An error keeps its place; a warning ends `n` columns further right and begins two columns before its end, or
at the start of the line. -/
structure Diagnostic.MovedBy (n : Nat) (d moved : Diagnostic) : Prop where
  severity : moved.severity = d.severity
  message : moved.message = d.message
  lines : moved.range.start.line = d.range.start.line ∧ moved.range.stop.line = d.range.stop.line
  error : d.severity = .error → moved.range = d.range
  warning : d.severity = .warning →
    moved.range.stop.character.toNat = d.range.stop.character.toNat + n ∧
      moved.range.start.character.toNat = moved.range.stop.character.toNat - 2

theorem movedBy_pushed {line : List Char} {index n : Nat} {d : Diagnostic} (hd : d ∈ diagnose line index)
    (hsize : columns line + n < UInt32.size) : d.MovedBy n (d.pushed n.toUInt32) := by
  rcases diagnose_cases hd with rfl | ⟨before, after, hcut, rfl⟩
  · exact ⟨rfl, rfl, ⟨rfl, rfl⟩, fun _ => rfl, nofun⟩
  · refine ⟨rfl, rfl, ⟨rfl, rfl⟩, nofun, fun _ => ⟨?_, toNat_twoBefore _⟩⟩
    have hbefore := toNat_columns_of_cut hcut (Nat.lt_of_le_of_lt (Nat.le_add_right _ n) hsize)
    have hn : n.toUInt32.toNat = n := UInt32.toNat_ofNat_of_lt' (by omega)
    have hfits : columns before + n < UInt32.size := by
      have hle := columns_le_of_cut hcut
      omega
    show ((columns before).toUInt32 + n.toUInt32).toNat = (columns before).toUInt32.toNat + n
    rw [UInt32.toNat_add, hbefore, hn]
    exact Nat.mod_eq_of_lt hfits

/-- **Padding around a line moves its warnings and changes nothing else.** The line with padding on both sides gets the
reports of the line alone, one by one; an error stays where it is, and a warning moves by the width of the padding in
front. -/
theorem padding_moves_only_warnings {front back line : List Char} (hfront : ∀ c ∈ front, isPadding c = true)
    (hback : ∀ c ∈ back, isPadding c = true) (hsize : columns (front ++ line ++ back) < UInt32.size) (index : Nat) :
    List.Forall₂ (Diagnostic.MovedBy (columns front)) (diagnose line index)
      (diagnose (front ++ line ++ back) index) := by
  rw [columns_append, columns_append] at hsize
  rw [diagnose_append_pad hback, diagnose_pad hfront, List.forall₂_map_right_iff, List.forall₂_same]
  intro d hd
  exact movedBy_pushed hd (by omega)

/-- A warning is moved by a byte order mark and a blank, and an error is not. -/
theorem indent_moves_only_warnings :
    (∀ c ∈ [byteOrderMark, '\t'], isPadding c = true) ∧ (∀ c ∈ ['\r', byteOrderMark], isPadding c = true) ∧
      diagnose "-: x".toList 7 = [missingCharacterAt 7 1] ∧
      List.Forall₂ (Diagnostic.MovedBy 2) [missingCharacterAt 7 1]
        (diagnose ([byteOrderMark, '\t'] ++ "-: x".toList ++ ['\r', byteOrderMark]) 7) ∧
      diagnose "- x".toList 7 = [missingColonAt 7] ∧
      List.Forall₂ (Diagnostic.MovedBy 2) [missingColonAt 7]
        (diagnose ([byteOrderMark, '\t'] ++ "- x".toList ++ ['\r', byteOrderMark]) 7) := by
  have hfront : ∀ c ∈ [byteOrderMark, '\t'], isPadding c = true := by simp [isPadding, isBlank]
  have hback : ∀ c ∈ ['\r', byteOrderMark], isPadding c = true := by simp [isPadding, isBlank]
  have hwarning : diagnose "-: x".toList 7 = [missingCharacterAt 7 1] := by decide
  have herror : diagnose "- x".toList 7 = [missingColonAt 7] := by decide
  refine ⟨hfront, hback, hwarning, ?_, herror, ?_⟩
  · rw [← hwarning]
    exact padding_moves_only_warnings hfront hback (by decide) 7
  · rw [← herror]
    exact padding_moves_only_warnings hfront hback (by decide) 7

end Both

end DialogueScript
