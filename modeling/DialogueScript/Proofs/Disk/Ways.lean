import DialogueScript.Proofs.Disk.Changes
import DialogueScript.Proofs.Disk.Places

/-!
# The way of a path

A path passes places on its way (`way`) before it comes to its end (`target`). Both follow from how the path is written
and from where it starts; what a disk holds decides whether the way can be gone. So what a path leads to is known from
what is at these places (`find?_congr`), and a disk that holds less has nothing at the end of a path but what was there
before (`find?_mono`).

A path lies below a location if it leads further down or passes it (`LiesBelow`). Clearing locations (`clear`) does
nothing to paths that do not lie below them and do not lead to them (`find?_clear`).
-/

namespace DialogueScript.Disk

variable {d d' : Disk} {p : Path} {l m : Location} {step : Path.Step} {ss : List Path.Step}

/-! ## Steps -/

section Steps

/-- Where a step leads. -/
def move : Path.Step → Location → Location
  | .stay, l => l
  | .up, l => l.dropLast
  | .down name, l => l ++ [name]

theorem follow?_cons (d : Disk) (step : Path.Step) (ss : List Path.Step) (l : Location) :
    d.follow? (step :: ss) l = if d.isDirectory l = true then d.follow? ss (move step l) else none := by
  cases hl : d.isDirectory l with
  | false => simp [follow?, hl]
  | true => cases step <;> simp [follow?, hl, move]

theorem mem_places_self (ss : List Path.Step) (l : Location) : l ∈ places ss l := by
  induction ss with
  | nil => simp [places]
  | cons step ss ih => cases step <;> simp [places, ih]

/-- The first step passes nothing but the place it starts from. -/
theorem places_cons (step : Path.Step) (ss : List Path.Step) (l : Location) :
    places (step :: ss) l = places ss (move step l) ∨ places (step :: ss) l = l :: places ss (move step l) := by
  cases step with
  | stay => exact Or.inl rfl
  | up | down => exact Or.inr rfl

theorem mem_places_cons (h : m ∈ places ss (move step l)) : m ∈ places (step :: ss) l := by
  rcases places_cons step ss l with heq | heq
  · rwa [heq]
  · rw [heq]
    exact List.mem_cons_of_mem l h

/-- Steps that can be followed end at the last of their places. -/
theorem getLast?_places (h : d.follow? ss l = some m) : (places ss l).getLast? = some m := by
  induction ss generalizing l with
  | nil => exact h
  | cons step ss ih =>
    rw [follow?_cons] at h
    split at h
    · rcases places_cons step ss l with heq | heq
      · rw [heq]
        exact ih h
      · rw [heq, List.getLast?_cons, ih h]
        rfl
    · cases h

/-- Where there are more directories, no fewer steps can be followed. -/
theorem follow?_mono (hdir : ∀ k, d'.isDirectory k = true → d.isDirectory k = true) (h : d'.follow? ss l = some m) :
    d.follow? ss l = some m := by
  induction ss generalizing l with
  | nil => exact h
  | cons step ss ih =>
    rw [follow?_cons] at h ⊢
    split at h
    · rename_i hl
      rw [if_pos (hdir l hl)]
      exact ih h
    · cases h

/-- Steps are followed alike if the same ones of their places are directories. -/
theorem follow?_congr (hdir : ∀ k ∈ places ss l, d'.isDirectory k = d.isDirectory k) :
    d'.follow? ss l = d.follow? ss l := by
  induction ss generalizing l with
  | nil => rfl
  | cons step ss ih =>
    rw [follow?_cons, follow?_cons, hdir l (mem_places_self _ l), ih fun k hk => hdir k (mem_places_cons hk)]

end Steps

/-! ## Paths -/

section Paths

/-- The places that a path passes before it comes to its end. -/
def way (d : Disk) (p : Path) : List Location := (places p.steps (d.origin p)).dropLast

/-- The place at which a path ends, whether or not it can be followed. -/
def target (d : Disk) (p : Path) : Location := (places p.steps (d.origin p)).getLastD []

theorem places_eq (d : Disk) (p : Path) : places p.steps (d.origin p) = d.way p ++ [d.target p] := by
  have hne : places p.steps (d.origin p) ≠ [] := List.ne_nil_of_mem (mem_places_self _ _)
  rw [way, target, List.getLastD_eq_getLast?, List.getLast?_eq_some_getLast hne]
  exact (List.dropLast_append_getLast hne).symm

/-- A path that can be followed leads to its end. -/
theorem find?_eq (hp : d.locate? p = some l) : d.find? p = d.get? (d.target p) := by
  have hbytes : p.bytes ≠ [] := by
    intro h
    simp [locate?, h] at hp
  rw [locate?_eq d hbytes] at hp
  have hlast := getLast?_places hp
  rw [places_eq, List.getLast?_concat, Option.some.injEq] at hlast
  simp [find?, locate?_eq d hbytes, hp, hlast]

variable (hplace : d'.workingDirectory = d.workingDirectory)

include hplace

theorem origin_congr (p : Path) : d'.origin p = d.origin p := by
  unfold origin
  rw [hplace]

/-- What a path leads to is known from what is on its way and at its end. -/
theorem find?_congr (hdir : ∀ m ∈ places p.steps (d.origin p), d'.isDirectory m = d.isDirectory m)
    (hend : d'.get? (d.target p) = d.get? (d.target p)) : d'.find? p = d.find? p := by
  have hlocate : d'.locate? p = d.locate? p := by
    unfold locate?
    rw [hplace]
    exact congrArg _ (follow?_congr hdir)
  have htarget : d'.target p = d.target p := by
    unfold target
    rw [origin_congr hplace]
  cases hl : d.locate? p with
  | none => simp [find?, hlocate, hl]
  | some l => rw [find?_eq hl, find?_eq (hlocate.trans hl), htarget, hend]

/-- Where there is less, a path leads to what was there before, if to anything. -/
theorem find?_mono (hget : ∀ m e, d'.get? m = some e → d.get? m = some e) {e : Entry} (h : d'.find? p = some e) :
    d.find? p = some e := by
  have hdir : ∀ k, d'.isDirectory k = true → d.isDirectory k = true := by
    intro k hk
    exact d.isDirectory_iff.2 (hget k _ (d'.isDirectory_iff.1 hk))
  simp only [find?, Option.bind_eq_bind, Option.bind_eq_some_iff] at h ⊢
  obtain ⟨l, hl, he⟩ := h
  refine ⟨l, ?_, hget l e he⟩
  unfold locate? at hl ⊢
  split at hl
  · cases hl
  · rename_i hbytes
    rw [if_neg hbytes, ← hplace]
    exact follow?_mono hdir hl

/-- A change at one place does not matter to a path that does not end there, if it does not pass the place or if the
place stays what it is for those who pass it. -/
theorem find?_of_eq_elsewhere (hget : ∀ m, m ≠ l → d'.get? m = d.get? m) (hend : d.target p ≠ l)
    (hway : l ∉ d.way p ∨ d'.isDirectory l = d.isDirectory l) : d'.find? p = d.find? p := by
  refine find?_congr hplace (fun m hm => ?_) (hget _ hend)
  by_cases hml : m = l
  · subst hml
    rcases hway with hway | hdir
    · rw [places_eq, List.mem_append, List.mem_singleton] at hm
      exact (hm.elim hway (Ne.symm hend)).elim
    · exact hdir
  · unfold isDirectory
    rw [hget m hml]

end Paths

/-! ## Clearing locations -/

section Clearing

/-- A path lies below a location if it ends further down, or if it passes the location or one further down on its way,
even if it leaves it again. -/
def LiesBelow (d : Disk) (p : Path) (l : Location) : Prop :=
  (isWithin (d.target p) l = true ∧ d.target p ≠ l) ∨ ∃ m ∈ d.way p, isWithin m l = true

instance (d : Disk) (p : Path) (l : Location) : Decidable (d.LiesBelow p l) := inferInstanceAs (Decidable (_ ∨ _))

/-- The disk after some locations have been cleared. -/
def clear (d : Disk) (ls : List Location) : Disk := ls.foldl (fun d l => d.apply (.remove l)) d

variable {ls : List Location}

theorem clear_cons (d : Disk) (l : Location) (ls : List Location) :
    d.clear (l :: ls) = (d.apply (.remove l)).clear ls := rfl

theorem workingDirectory_clear (d : Disk) (ls : List Location) :
    (d.clear ls).workingDirectory = d.workingDirectory := by
  induction ls generalizing d with
  | nil => rfl
  | cons l ls ih => exact ih (d.apply (.remove l))

theorem get?_clear (d : Disk) (ls : List Location) (hm : m ≠ []) :
    (d.clear ls).get? m = if ls.any (isWithin m) = true then none else d.get? m := by
  induction ls generalizing d with
  | nil => rfl
  | cons l ls ih =>
    rw [clear_cons, ih, get?_apply_remove d l hm, List.any_cons]
    cases isWithin m l <;> simp

theorem get?_of_get?_clear {e : Entry} (h : (d.clear ls).get? m = some e) : d.get? m = some e := by
  by_cases hm : m = []
  · subst hm
    exact h
  · rw [get?_clear d ls hm] at h
    split at h
    · cases h
    · exact h

/-- **Clearing other places does not matter** to a path that lies below none of them. -/
theorem find?_clear (hbelow : ∀ l ∈ ls, ¬ d.LiesBelow p l) (hend : d.target p ∉ ls) :
    (d.clear ls).find? p = d.find? p := by
  have hget : ∀ m ∈ places p.steps (d.origin p), (d.clear ls).get? m = d.get? m := by
    intro m hm
    by_cases hroot : m = []
    · rw [hroot]
      rfl
    · rw [get?_clear d ls hroot, if_neg]
      rw [List.any_eq_true]
      rintro ⟨l, hl, hwithin⟩
      rw [places_eq, List.mem_append, List.mem_singleton] at hm
      rcases hm with hm | rfl
      · exact hbelow l hl (Or.inr ⟨m, hm, hwithin⟩)
      · exact hbelow l hl (Or.inl ⟨hwithin, fun h => hend (h ▸ hl)⟩)
  refine find?_congr (workingDirectory_clear d ls) (fun m hm => ?_) (hget _ ?_)
  · unfold isDirectory
    rw [hget m hm]
  · rw [places_eq]
    exact List.mem_append_right _ (List.mem_singleton_self _)

end Clearing

end DialogueScript.Disk
