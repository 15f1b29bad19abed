import DialogueScript.Line.Check
import DialogueScript.Proofs.Grammar

/-!
# What the check of a line looks at

`diagnose` trims a line to classify it, looks for a colon on the line as it stands, and looks for a dialogue on the line
without its comment. The lemmas say what each of these finds when the line begins with text that is known.

* A comment that begins later is cut out of what follows (`stripComment_append`); of a line that holds a comment the
  comment is cut out (`stripComment_comment`), and any other line stays (`stripComment_of_not_commented`).
* A line with a dash behind its padding is checked as a dialogue (`diagnose_dash`), and its problems are read off its
  first colon and its dialogue (`checkDialogue_of_not_mem`, `checkDialogue_of_cut`, `checkDialogue_of_find?`).
* Behind padding, a header is the leftmost one (`find?_pad_header`).
-/

namespace DialogueScript

section Comments

/-- A line holds a comment: an opening bracket, and a closing one somewhere behind it. -/
def Commented (line : List Char) : Prop :=
  ∃ before body after, line = before ++ '(' :: (body ++ ')' :: after)

/-- Text without an opening bracket is no part of a comment. -/
theorem stripComment_append {x : List Char} (h : '(' ∉ x) (y : List Char) :
    stripComment (x ++ y) = x ++ stripComment y := by
  unfold stripComment
  rw [cut_append_right h]
  cases cut '(' y with
  | none => rfl
  | some pair =>
    obtain ⟨before, rest⟩ := pair
    simp only [Option.map_some]
    cases cut ')' rest with
    | none => rfl
    | some pair => exact List.append_assoc x before pair.2

theorem stripComment_comment {x b : List Char} (hx : '(' ∉ x) (hb : ')' ∉ b) (y : List Char) :
    stripComment (x ++ '(' :: (b ++ ')' :: y)) = x ++ y := by
  have hopen : cut '(' (x ++ '(' :: (b ++ ')' :: y)) = some (x, b ++ ')' :: y) := cut_eq_some_iff.2 ⟨hx, rfl⟩
  have hclose : cut ')' (b ++ ')' :: y) = some (b, y) := cut_eq_some_iff.2 ⟨hb, rfl⟩
  simp only [stripComment, hopen, hclose]

/-- Of the brackets of a line the first ones count. -/
theorem Commented.exists_first {line : List Char} (h : Commented line) :
    ∃ x b y, '(' ∉ x ∧ ')' ∉ b ∧ line = x ++ '(' :: (b ++ ')' :: y) := by
  obtain ⟨before, body, after, rfl⟩ := h
  by_cases hopen : '(' ∈ before
  · obtain ⟨x, rest, hcut⟩ := exists_cut hopen
    obtain ⟨hx, rfl⟩ := cut_eq_some_iff.1 hcut
    obtain ⟨b, y, hcut'⟩ := exists_cut (c := ')') (s := rest ++ '(' :: (body ++ ')' :: after)) (by simp)
    obtain ⟨hb, hrest⟩ := cut_eq_some_iff.1 hcut'
    exact ⟨x, b, y, hx, hb, by rw [← hrest]; simp⟩
  · obtain ⟨b, y, hcut⟩ := exists_cut (c := ')') (s := body ++ ')' :: after) (by simp)
    obtain ⟨hb, hrest⟩ := cut_eq_some_iff.1 hcut
    exact ⟨before, b, y, hopen, hb, by rw [hrest]⟩

theorem stripComment_of_not_commented {line : List Char} (h : ¬ Commented line) : stripComment line = line := by
  unfold stripComment
  cases hopen : cut '(' line with
  | none => rfl
  | some pair =>
    obtain ⟨before, rest⟩ := pair
    cases hclose : cut ')' rest with
    | none => simp only [hclose]
    | some pair =>
      obtain ⟨body, after⟩ := pair
      obtain ⟨-, rfl⟩ := cut_eq_some_iff.1 hclose
      obtain ⟨-, rfl⟩ := cut_eq_some_iff.1 hopen
      exact absurd ⟨before, body, after, rfl⟩ h

/-- Text without a closing bracket ends no comment of the line in front of it. -/
theorem stripComment_append_of_not_mem {y : List Char} (h : ')' ∉ y) (x : List Char) :
    stripComment (x ++ y) = stripComment x ++ y := by
  cases hopen : cut '(' x with
  | none =>
    have hx : '(' ∉ x := cut_eq_none_iff.1 hopen
    have hplain : ¬ Commented x := by
      rintro ⟨before, body, after, rfl⟩
      simp at hx
    have hplain' : ¬ Commented y := by
      rintro ⟨before, body, after, rfl⟩
      simp at h
    rw [stripComment_append hx, stripComment_of_not_commented hplain, stripComment_of_not_commented hplain']
  | some pair =>
    obtain ⟨before, rest⟩ := pair
    simp only [stripComment, cut_append_left hopen y, hopen, cut_append_of_not_mem h]
    cases cut ')' rest with
    | none => rfl
    | some pair => exact (List.append_assoc before pair.2 y).symm

theorem commented_iff {line : List Char} : Commented line ↔ stripComment line ≠ line := by
  refine ⟨fun h hsame => ?_, fun h => by_contra fun hno => h (stripComment_of_not_commented hno)⟩
  obtain ⟨x, b, y, hx, hb, rfl⟩ := h.exists_first
  rw [stripComment_comment hx hb] at hsame
  have hlength := congrArg List.length hsame
  simp only [List.length_append, List.length_cons] at hlength
  omega

instance (line : List Char) : Decidable (Commented line) := decidable_of_iff _ commented_iff.symm

end Comments

section Checks

variable {line before after : List Char} {d : Dialogue}

/-- A dialogue that can be read is reported when it has no speaker. -/
theorem checkDialogue_of_find? (hcolon : cut ':' line = some (before, after))
    (hfind : Dialogue.find? (stripComment line) = some d) (index : Nat) :
    checkDialogue line index =
      if d.character = none then [missingCharacterAt index (columns before).toUInt32] else [] := by
  obtain ⟨tag, expression, character, portrait, text⟩ := d
  unfold checkDialogue
  rw [hcolon, hfind]
  cases character <;> rfl

/-- A line with a colon is reported when it has a dialogue without a speaker, and passes otherwise. -/
theorem checkDialogue_of_cut (hcolon : cut ':' line = some (before, after)) (index : Nat) :
    checkDialogue line index =
      if (Dialogue.find? (stripComment line)).map Dialogue.character = some none then
        [missingCharacterAt index (columns before).toUInt32] else [] := by
  cases hfind : Dialogue.find? (stripComment line) with
  | none =>
    unfold checkDialogue
    rw [hcolon, hfind]
    rfl
  | some d =>
    rw [checkDialogue_of_find? hcolon hfind]
    simp

/-- A speaker is missing exactly in front of an empty name. -/
theorem character_report_eq_none (h : Header) (rest : List Char) :
    (h.parts rest).report.character = none ↔ h.name = [] := by
  by_cases hname : h.name = [] <;> simp [Parts.report, Header.parts, hname]

theorem checkDialogue_of_not_mem (hcolon : ':' ∉ line) (index : Nat) :
    checkDialogue line index = [missingColonAt index] := by
  unfold checkDialogue
  rw [cut_eq_none_iff.2 hcolon]

/-- Every header has a colon. -/
theorem find?_of_not_mem (hcolon : ':' ∉ line) : Dialogue.find? line = none := by
  by_contra hne
  obtain ⟨p, h, rest, before, -, rfl⟩ := find?_isSome_iff.1 (Option.isSome_iff_ne_none.2 hne)
  exact hcolon (by simp [Header.text, Header.body])

end Checks

section Padded

variable {pad : List Char} (hpad : ∀ c ∈ pad, isPadding c = true)

include hpad

/-- A dash behind the padding makes a dialogue of the line. -/
theorem diagnose_dash (s : List Char) (index : Nat) :
    diagnose (pad ++ '-' :: s) index = checkDialogue (pad ++ '-' :: s) index := by
  obtain ⟨t, ht⟩ := exists_trim_eq hpad (c := '-') (by decide) s
  unfold diagnose
  rw [ht]
  rfl

/-- A header behind padding is the leftmost one, whatever follows it. -/
theorem find?_pad_header (h : Header) (rest : List Char) :
    Dialogue.find? (pad ++ h.text ++ rest) = some (h.parts rest).report := by
  have hdash : '-' ∉ pad := not_mem_of_padding hpad (by decide)
  rw [List.append_assoc]
  apply find?_append (afterDash?_body h rest)
  rintro a b rfl
  exact absurd (by simp) hdash

/-- The first colon of a line with a header behind its padding is one of the header. -/
theorem exists_colon_pad_header (h : Header) :
    ∃ before after, ∀ rest, cut ':' (pad ++ h.text ++ rest) = some (before, after ++ rest) := by
  have hcolon : ':' ∉ pad := not_mem_of_padding hpad (by decide)
  obtain ⟨before, after, hcut⟩ := exists_cut (c := ':') (s := h.text) (by simp [Header.text, Header.body])
  refine ⟨pad ++ before, after, fun rest => ?_⟩
  rw [List.append_assoc, cut_append_right hcolon, cut_append_left hcut]
  rfl

end Padded

end DialogueScript
