import DialogueScript.Proofs.Disk.Places
import DialogueScript.Watcher

/-!
# What a watcher sees

A watcher sees a name in a directory when it knows the name and watches the directory (`Watcher.Sees`). It then reports
every change that touches the name there (`Sees.reports_ne_nil`), for as long as the directory is not removed
(`Sees.after`). A watcher that starts sees every file of its list whose directory is there (`start_sees`): of several
spellings of a directory only one is kept, but all of them lead to it.
-/

namespace DialogueScript

/-! ## Ordered paths -/

namespace Path

variable {p q r : Path} {qs : List Path}

theorem mem_insertOrdered (p : Path) : ∀ qs : List Path, p ∈ insertOrdered p qs
  | [] => List.mem_cons_self
  | q :: qs => by
    unfold insertOrdered
    split
    · exact List.mem_cons_self
    · split
      · exact List.mem_cons_self
      · exact List.mem_cons_of_mem q (mem_insertOrdered p qs)

theorem of_mem_insertOrdered (h : q ∈ insertOrdered p qs) : q = p ∨ q ∈ qs := by
  induction qs with
  | nil => simpa [insertOrdered] using h
  | cons a qs ih =>
    unfold insertOrdered at h
    split at h
    · rcases List.mem_cons.1 h with h | h
      · exact Or.inl h
      · exact Or.inr (List.mem_cons_of_mem a h)
    · split at h
      · exact List.mem_cons.1 h
      · rcases List.mem_cons.1 h with rfl | h
        · exact Or.inr List.mem_cons_self
        · exact (ih h).imp_right (List.mem_cons_of_mem a)

/-- A path gives way only to one with the same parts. -/
theorem exists_insertOrdered (p : Path) (h : r ∈ qs) : ∃ q ∈ insertOrdered p qs, q.sortKey = r.sortKey := by
  induction qs with
  | nil => cases h
  | cons a qs ih =>
    unfold insertOrdered
    split
    · rename_i hkey
      rcases List.mem_cons.1 h with rfl | h
      · exact ⟨p, List.mem_cons_self, hkey⟩
      · exact ⟨r, List.mem_cons_of_mem p h, rfl⟩
    · split
      · exact ⟨r, List.mem_cons_of_mem p h, rfl⟩
      · rcases List.mem_cons.1 h with rfl | h
        · exact ⟨r, List.mem_cons_self, rfl⟩
        · obtain ⟨q, hq, hkey⟩ := ih h
          exact ⟨q, List.mem_cons_of_mem a hq, hkey⟩

theorem of_mem_foldl_insertOrdered {ps : List Path} :
    ∀ {qs : List Path}, q ∈ ps.foldl (fun acc p => insertOrdered p acc) qs → q ∈ qs ∨ q ∈ ps := by
  induction ps with
  | nil => exact Or.inl
  | cons p ps ih =>
    intro qs h
    rcases ih h with h | h
    · rcases of_mem_insertOrdered h with rfl | h
      · exact Or.inr List.mem_cons_self
      · exact Or.inl h
    · exact Or.inr (List.mem_cons_of_mem p h)

theorem exists_foldl_insertOrdered {ps : List Path} : ∀ {qs : List Path} {r : Path}, r ∈ qs ∨ r ∈ ps →
    ∃ q ∈ ps.foldl (fun acc p => insertOrdered p acc) qs, q.sortKey = r.sortKey := by
  induction ps with
  | nil =>
    rintro qs r (h | h)
    · exact ⟨r, h, rfl⟩
    · cases h
  | cons p ps ih =>
    rintro qs r (h | h)
    · -- a path that gives way leaves its parts behind
      obtain ⟨q, hq, hkey⟩ := exists_insertOrdered p h
      obtain ⟨q', hq', hkey'⟩ := ih (Or.inl hq)
      exact ⟨q', hq', hkey'.trans hkey⟩
    · rcases List.mem_cons.1 h with rfl | h
      · exact ih (Or.inl (mem_insertOrdered r qs))
      · exact ih (Or.inr h)

/-- The ordered paths are paths of the list, one for each of them with the same parts. -/
theorem exists_sorted {ps : List Path} (h : p ∈ ps) : ∃ q ∈ sorted ps, q ∈ ps ∧ q.sortKey = p.sortKey := by
  obtain ⟨q, hq, hkey⟩ := exists_foldl_insertOrdered (Or.inr h : p ∈ [] ∨ p ∈ ps)
  exact ⟨q, hq, (of_mem_foldl_insertOrdered hq).resolve_left (by simp), hkey⟩

end Path

/-! ## Directories of files -/

/-- The directory in which a file is looked for. -/
def Disk.home? (d : Disk) (f : Path) : Option Location := f.parent?.bind d.directory?

/-- A disk looks for a file by a name in a directory. -/
structure Disk.LooksFor (d : Disk) (f : Path) (l : Location) (name : Name) : Prop where
  isName : Path.IsName name
  spelled : ∃ q, f = ⟨q ++ Path.slash :: name⟩
  home : d.home? f = some l

namespace Disk.LooksFor

variable {d : Disk} {f : Path} {l : Location} {name : Name}

theorem locate? (h : d.LooksFor f l name) : d.locate? f = some (l ++ [name]) := by
  obtain ⟨q, rfl⟩ := h.spelled
  obtain ⟨p, hp, hlocate⟩ := Disk.locate?_parent h.isName q
  have hhome := h.home
  rw [home?, hp, Option.bind_some] at hhome
  rw [hlocate, hhome]
  rfl

theorem fileName? (h : d.LooksFor f l name) : f.fileName? = some name := by
  obtain ⟨q, rfl⟩ := h.spelled
  exact Path.fileName?_slash h.isName q

end Disk.LooksFor

/-- Whether a change removes what is at a location, with or without something above it. -/
def Disk.Change.removes (l : Location) : Disk.Change → Bool
  | .put _ _ => false
  | .remove top => Disk.isWithin l top

/-! ## Watching -/

namespace Watcher

variable {w : Watcher} {l : Location} {name : Name} {d : Disk} {c : Disk.Change}

/-- A watcher sees a name in a directory. -/
def Sees (w : Watcher) (l : Location) (name : Name) : Prop := name ∈ w.names ∧ ∃ p, (p, l) ∈ w.directories

theorem Sees.exists_report? (h : w.Sees l name) : ∃ p, w.report? (l ++ [name]) = some p := by
  obtain ⟨hname, p, hp⟩ := h
  have hfind : (w.directories.reverse.find? fun entry => entry.2 == l).isSome = true :=
    List.find?_isSome.2 ⟨(p, l), List.mem_reverse.2 hp, by simp⟩
  obtain ⟨entry, hentry⟩ := Option.isSome_iff_exists.1 hfind
  exact ⟨entry.1.join ⟨name⟩, by simp [report?, pathOf?, hentry, hname]⟩

/-- **A change that touches a name that a watcher sees is reported.** -/
theorem Sees.reports_ne_nil (h : w.Sees l name) (hc : l ++ [name] ∈ d.touched c) : w.reports d c ≠ [] := by
  obtain ⟨p, hp⟩ := h.exists_report?
  apply List.ne_nil_of_mem (a := p)
  cases c with
  | put m e => exact List.mem_filterMap.2 ⟨_, hc, hp⟩
  | remove m => exact List.mem_flatMap.2 ⟨_, hc, by simp [hp]⟩

/-- As long as its directory stays, a name is seen. -/
theorem Sees.after (h : w.Sees l name) (hc : c.removes l = false) : (w.after c).Sees l name := by
  cases c with
  | put m e => exact h
  | remove m =>
    obtain ⟨hname, p, hp⟩ := h
    have hkeep : Disk.isWithin l m = false := hc
    exact ⟨hname, p, List.mem_filter.2 ⟨hp, by simp [hkeep]⟩⟩

theorem directoryAt?_eq (d : Disk) (p : Path) : directoryAt? d p = (d.directory? p).map fun l => (p, l) := by
  unfold directoryAt? Disk.directory?
  cases d.locate? p with
  | none => rfl
  | some l => cases hl : d.isDirectory l <;> simp [Option.filter, hl]

/-- **A watcher that starts sees every file of its list**, when the directories of all of them are there. -/
theorem start_sees {files : List Path} {f : Path} (hf : f ∈ files) (h : d.LooksFor f l name)
    (hall : ∀ f ∈ files, d.home? f ≠ none) : (start d files).Sees l name := by
  refine ⟨List.mem_filterMap.2 ⟨f, hf, h.fileName?⟩, ?_⟩
  obtain ⟨p, hparent, hp⟩ := Option.bind_eq_some_iff.1 h.home
  -- a directory that is there has a path that is not empty
  have hbytes : ∀ {p l}, d.directory? p = some l → p.bytes ≠ [] := by
    intro p l h hp
    simp [Disk.directory?, Disk.locate?, hp] at h
  obtain ⟨p', hp', hmem, hkey⟩ := Path.exists_sorted (List.mem_filterMap.2 ⟨_, hf, hparent⟩)
  have hp'bytes : p'.bytes ≠ [] := by
    obtain ⟨f, hfiles, hfparent⟩ := List.mem_filterMap.1 hmem
    obtain ⟨m, hm⟩ := Option.ne_none_iff_exists'.1 (hall f hfiles)
    rw [Disk.home?, hfparent, Option.bind_some] at hm
    exact hbytes hm
  have hdir : directoryAt? d p' = some (p', l) := by
    rw [directoryAt?_eq, d.directory?_of_sortKey hp'bytes (hbytes hp) hkey, hp]
    rfl
  exact ⟨p', List.mem_filterMap.2 ⟨p', hp', hdir⟩⟩

end Watcher

end DialogueScript
