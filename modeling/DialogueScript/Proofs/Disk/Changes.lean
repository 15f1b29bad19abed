import Mathlib.Data.List.Basic
import DialogueScript.Disk.Tree

/-!
# What changes touch

`get?_apply_put` and `get?_apply_remove` say what is where after a change. Away from the locations that a change touches
everything stays as it is, except that a directory may have been made where nothing was (`get?_apply_of_not_touched`).
On a disk where everything is in something (`IsTree`), which every change keeps so (`IsTree.apply`), there is no such
exception: whatever a change alters, it touches (`IsTree.mem_touched`).
-/

namespace DialogueScript.Disk

variable (d : Disk) {l m : Location}

theorem isDirectory_iff : d.isDirectory l = true ↔ d.get? l = some .directory := by
  unfold isDirectory
  cases d.get? l with
  | none => simp
  | some e => cases e <;> simp [Entry.isDirectory]

theorem get?_of_ne_nil (hm : m ≠ []) : d.get? m = (d.entries.find? fun e => e.1 == m).map Prod.snd := by
  simp [get?, hm]

/-- Among the entries that are kept by their locations, an entry is found if its location is kept. -/
theorem find?_filter_location (keep : Location → Bool) (m : Location) (entries : List (Location × Entry)) :
    (entries.filter fun e => keep e.1).find? (fun e => e.1 == m) =
      if keep m = true then entries.find? (fun e => e.1 == m) else none := by
  induction entries with
  | nil => simp
  | cons e entries ih =>
    by_cases he : e.1 = m
    · subst he
      cases hk : keep e.1 with
      | true => simp [hk]
      | false => simpa [hk] using ih
    · cases hk : keep e.1 with
      | true => simpa [hk, he] using ih
      | false => simpa [hk, he] using ih

theorem get?_set (l : Location) (e : Entry) (hm : m ≠ []) :
    (d.set l e).get? m = if m = l then some e else d.get? m := by
  have hfind := find?_filter_location (fun x => x != l) m d.entries
  rw [get?_of_ne_nil _ hm, get?_of_ne_nil _ hm, set, List.find?_append, hfind]
  by_cases h : m = l
  · simp [h]
  · have hl : l ≠ m := Ne.symm h
    simp [h, hl]

theorem get?_makeDirectories (ls : List Location) (hm : m ≠ []) :
    (ls.foldl (fun d a => d.set a .directory) d).get? m = if m ∈ ls then some .directory else d.get? m := by
  induction ls generalizing d with
  | nil => simp
  | cons a ls ih =>
    rw [List.foldl_cons, ih, get?_set d a .directory hm]
    by_cases hls : m ∈ ls
    · simp [hls]
    · simp [hls]

/-- The directories that are made above a location. -/
def missing (l : Location) : List Location := (ancestors l).filter fun a => (d.get? a).isNone

theorem get?_of_mem_missing (h : m ∈ d.missing l) : d.get? m = none := by
  simpa using (List.mem_filter.1 h).2

theorem get?_apply_put (l : Location) (e : Entry) (hm : m ≠ []) : (d.apply (.put l e)).get? m =
    if m = l then some e else if m ∈ d.missing l then some .directory else d.get? m := by
  unfold apply
  rw [get?_set _ l e hm, get?_makeDirectories d _ hm]
  rfl

theorem get?_apply_remove (l : Location) (hm : m ≠ []) :
    (d.apply (.remove l)).get? m = if isWithin m l = true then none else d.get? m := by
  have hfind := find?_filter_location (fun x => !isWithin x l) m d.entries
  rw [get?_of_ne_nil _ hm, get?_of_ne_nil _ hm, apply, hfind]
  cases isWithin m l <;> simp

/-- **What a change does not touch stays.** A directory that is made once more touches nothing, though the directories
above it may be made. -/
theorem get?_apply_of_not_touched (c : Change) (hm : m ≠ []) (h : m ∉ d.touched c) :
    (d.apply c).get? m = d.get? m ∨ d.get? m = none ∧ (d.apply c).get? m = some .directory := by
  cases c with
  | put l e =>
    rw [get?_apply_put d l e hm]
    by_cases hmade : e.isDirectory = true ∧ d.isDirectory l = true
    · by_cases hl : m = l
      · have he : e = .directory := by
          cases e with
          | file content => cases hmade.1
          | directory => rfl
        left
        rw [if_pos hl, he, hl, d.isDirectory_iff.1 hmade.2]
      · rw [if_neg hl]
        split
        · rename_i hmissing
          exact Or.inr ⟨d.get?_of_mem_missing hmissing, rfl⟩
        · exact Or.inl rfl
    · have htouched : m ∉ d.missing l ∧ m ≠ l := by
        simp only [touched, Bool.and_eq_true, hmade, if_false] at h
        simpa [missing] using h
      left
      rw [if_neg htouched.2, if_neg htouched.1]
  | remove l =>
    left
    rw [get?_apply_remove d l hm]
    split
    · rename_i hwithin
      cases hget : d.get? m with
      | none => rfl
      | some e =>
        -- an entry within the cleared location is touched
        rw [get?_of_ne_nil d hm] at hget
        obtain ⟨⟨k, e'⟩, hfind, -⟩ := Option.map_eq_some_iff.1 hget
        have hk : k = m := by simpa using List.find?_some hfind
        have hmem : m ∈ d.entries.map Prod.fst := List.mem_map.2 ⟨(k, e'), List.mem_of_find?_eq_some hfind, hk⟩
        exact absurd (List.mem_reverse.2 (List.mem_filter.2 ⟨hmem, hwithin⟩)) h
    · rfl

/-! ## Trees -/

section Trees

variable {d}

/-- Whatever is on a disk is in something. -/
def IsTree (d : Disk) : Prop := ∀ ⦃a l : Location⦄, a <+: l → d.get? l ≠ none → d.get? a ≠ none

/-- A change makes, rewrites or removes what is at a location. -/
def Alters (d : Disk) (c : Change) (l : Location) : Prop :=
  (d.apply c).get? l ≠ d.get? l ∨ ∃ content, c = .put l (.file content)

theorem mem_ancestors_iff : m ∈ ancestors l ↔ m ≠ [] ∧ m <+: l ∧ m ≠ l := by
  have hrange : ∀ n, n ∈ (List.range l.length).drop 1 ↔ 1 ≤ n ∧ n < l.length := by
    intro n
    rw [List.range_eq_range', List.drop_range', List.mem_range'_1]
    omega
  simp only [ancestors, List.mem_map]
  constructor
  · rintro ⟨n, hn, rfl⟩
    rw [hrange] at hn
    have hlength : (l.take n).length = n := by
      rw [List.length_take]
      omega
    refine ⟨?_, List.take_prefix n l, ?_⟩
    · intro h
      rw [h, List.length_nil] at hlength
      omega
    · intro h
      rw [h] at hlength
      omega
  · rintro ⟨hne, habove, hproper⟩
    have hpos : 0 < m.length := List.length_pos_iff.2 hne
    have hlt : m.length < l.length := by
      rcases Nat.lt_or_ge m.length l.length with h | h
      · exact h
      · exact absurd (habove.eq_of_length_le h) hproper
    exact ⟨m.length, (hrange _).2 ⟨hpos, hlt⟩, (List.prefix_iff_eq_take.1 habove).symm⟩

/-- What is there after something was put: what was there before, and all that leads to the place. -/
theorem get?_apply_put_ne_none_iff (d : Disk) (e : Entry) (hm : m ≠ []) :
    (d.apply (.put l e)).get? m ≠ none ↔ m <+: l ∨ d.get? m ≠ none := by
  rw [get?_apply_put d l e hm]
  by_cases hl : m = l
  · simp [hl]
  · rw [if_neg hl]
    by_cases hmissing : m ∈ d.missing l
    · obtain ⟨hancestor, -⟩ := List.mem_filter.1 hmissing
      simp [hmissing, (mem_ancestors_iff.1 hancestor).2.1]
    · rw [if_neg hmissing]
      refine ⟨Or.inr, fun h => h.elim (fun habove hnone => ?_) id⟩
      exact hmissing (List.mem_filter.2 ⟨mem_ancestors_iff.2 ⟨hm, habove, hl⟩, by simp [hnone]⟩)

/-- Every change leaves a tree behind. -/
theorem IsTree.apply (h : d.IsTree) (c : Change) : (d.apply c).IsTree := by
  intro a l habove hl
  by_cases ha : a = []
  · rw [ha]
    exact Option.some_ne_none _
  have hl' : l ≠ [] := by
    rintro rfl
    exact ha (List.prefix_nil.1 habove)
  cases c with
  | put m e =>
    rw [get?_apply_put_ne_none_iff d e hl'] at hl
    rw [get?_apply_put_ne_none_iff d e ha]
    exact hl.imp habove.trans (h habove)
  | remove m =>
    rw [get?_apply_remove d m hl'] at hl
    rw [get?_apply_remove d m ha]
    -- what stays is not within the cleared location, so neither is anything above it
    have hstays : ¬ isWithin l m = true := by
      intro hwithin
      rw [if_pos hwithin] at hl
      exact hl rfl
    have hstays' : ¬ isWithin a m = true := by
      intro hwithin
      have hm : m <+: a := List.isPrefixOf_iff_prefix.1 hwithin
      exact hstays (List.isPrefixOf_iff_prefix.2 (hm.trans habove))
    rw [if_neg hstays] at hl
    rw [if_neg hstays']
    exact h habove hl

theorem isTree_of_no_entries (h : d.entries = []) : d.IsTree := by
  intro a l habove hl
  by_cases hne : l = []
  · rw [hne] at habove
    rw [List.prefix_nil.1 habove]
    exact Option.some_ne_none _
  · rw [get?_of_ne_nil d hne, h] at hl
    exact absurd rfl hl

theorem IsTree.applyAll (h : d.IsTree) (changes : List Change) : (changes.foldl Disk.apply d).IsTree := by
  induction changes generalizing d with
  | nil => exact h
  | cons c changes ih => exact ih (h.apply c)

/-- **What a change to a tree alters, it touches.** -/
theorem IsTree.mem_touched (h : d.IsTree) {c : Change} (hc : d.Alters c m) : m ∈ d.touched c := by
  rcases hc with hne | ⟨content, rfl⟩
  · have hm : m ≠ [] := by
      rintro rfl
      exact hne rfl
    by_contra hno
    obtain hsame | ⟨hnone, hmade⟩ := d.get?_apply_of_not_touched c hm hno
    · exact hne hsame
    cases c with
    | put l e =>
      have hthere : (d.apply (.put l e)).get? m ≠ none := by
        rw [hmade]
        exact Option.some_ne_none _
      have habove := ((d.get?_apply_put_ne_none_iff e hm).1 hthere).resolve_right (not_not_intro hnone)
      simp only [touched] at hno
      split at hno
      · -- a directory is there already, and with it all that leads to it
        rename_i hdir
        have hl := d.isDirectory_iff.1 (Bool.and_eq_true_iff.1 hdir).2
        exact h habove (by rw [hl]; exact Option.some_ne_none _) hnone
      · refine hno (List.mem_append.2 ?_)
        by_cases hl : m = l
        · exact Or.inr (List.mem_singleton.2 hl)
        · exact Or.inl (List.mem_filter.2 ⟨mem_ancestors_iff.2 ⟨hm, habove, hl⟩, by simp [hnone]⟩)
    | remove l =>
      rw [get?_apply_remove d l hm, hnone, ite_self] at hmade
      cases hmade
  · simp [touched, Entry.isDirectory]

end Trees

end DialogueScript.Disk
