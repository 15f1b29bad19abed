import DialogueScript.Proofs.Disk.Ways

/-!
# Paths by their names

A path that starts at the root and never goes up (`Path.IsPlain`) leads down by names, and these are all that counts of
it: it names a location (`Path.Names`). Two such paths are the same to the order of paths exactly when they name the
same location (`names_iff`).

The path without its last part names the location above, and the last part is the last name (`names_cases`). The other
way round, a name joined to a path is one name more (`Names.join`). A directory that such a path leads to is at the
location that it names (`Disk.eq_of_directory?`).
-/

namespace DialogueScript

namespace Path

/-- A path from the root that never goes up. -/
def IsPlain (p : Path) : Prop := p.isAbsolute = true ∧ .up ∉ p.steps

instance (p : Path) : Decidable p.IsPlain := inferInstanceAs (Decidable (_ ∧ _))

/-- Paths are the same if their parts are, however they are written. -/
def Same (p q : Path) : Prop := p.sortKey = q.sortKey

/-- A path leads from the root by the names of a location. -/
def Names (p : Path) (l : Location) : Prop := p.isAbsolute = true ∧ p.steps.filter Step.moves = l.map .down

variable {p q : Path} {l : Location} {name : Name} {ss : List Step} {r : List UInt8}

/-! ## Names and keys -/

section Keys

theorem filterMap_moveKey (ss : List Step) : (ss.filter Step.moves).filterMap moveKey = ss.filterMap moveKey := by
  induction ss with
  | nil => rfl
  | cons step ss ih =>
    cases step with
    | stay => exact ih
    | up => exact congrArg ((2, []) :: ·) ih
    | down name => exact congrArg ((3, name) :: ·) ih

/-- The location that a path names and the key of the path tell each other. -/
theorem names_iff : p.Names l ↔ p.sortKey = (0, []) :: l.map fun name => (3, name) := by
  constructor
  · rintro ⟨habsolute, hmoves⟩
    have hkeys : p.steps.filterMap moveKey = l.map fun name => (3, name) := by
      rw [← filterMap_moveKey, hmoves, List.filterMap_map]
      exact congrFun List.filterMap_eq_map l
    rw [sortKey_eq, if_pos habsolute, hkeys]
    rfl
  · intro h
    have hkeys : p.steps.filterMap moveKey = l.map fun name => (3, name) := by
      rw [← moves_of_sortKey, h, List.filter_cons_of_neg (by decide), List.filter_eq_self]
      simp
    refine ⟨(isAbsolute_iff_sortKey p).2 (by simp [h]), ?_⟩
    rw [filter_moves_eq, hkeys, List.map_map]
    exact List.map_congr_left fun name _ => rfl

theorem Names.same (hp : p.Names l) (hq : q.Names l) : p.Same q := (names_iff.1 hp).trans (names_iff.1 hq).symm

theorem Names.of_same (hq : q.Names l) (h : p.Same q) : p.Names l := names_iff.2 (h.trans (names_iff.1 hq))

theorem Names.isName (h : p.Names l) (hname : name ∈ l) : IsName name := by
  have hmem : Step.down name ∈ p.steps.filter Step.moves := by
    rw [h.2]
    exact List.mem_map_of_mem hname
  exact isName_of_mem_steps (List.mem_filter.1 hmem).1

theorem exists_downs (h : .up ∉ ss) : ∃ l : Location, ss.filter Step.moves = l.map .down := by
  induction ss with
  | nil => exact ⟨[], rfl⟩
  | cons step ss ih =>
    obtain ⟨l, hl⟩ := ih fun hup => h (List.mem_cons_of_mem step hup)
    cases step with
    | stay => exact ⟨l, hl⟩
    | up => exact absurd List.mem_cons_self h
    | down name => exact ⟨name :: l, congrArg (Step.down name :: ·) hl⟩

/-- Plain paths are those that name a location. -/
theorem isPlain_iff : p.IsPlain ↔ ∃ l, p.Names l := by
  constructor
  · rintro ⟨habsolute, hup⟩
    obtain ⟨l, hl⟩ := exists_downs hup
    exact ⟨l, habsolute, hl⟩
  · rintro ⟨l, habsolute, hmoves⟩
    refine ⟨habsolute, fun hup => ?_⟩
    have hmem : Step.up ∈ l.map Step.down := by
      rw [← hmoves]
      exact List.mem_filter.2 ⟨hup, rfl⟩
    simp at hmem

end Keys

/-! ## Parents and last names -/

section Parents

/-- Whether a path starts at the root is known at its first slash, and on both sides of a slash there are steps. -/
theorem names_slash_iff (q t : List UInt8) : Names ⟨q ++ slash :: t⟩ l ↔ isAbsolute ⟨q ++ [slash]⟩ = true ∧
    (steps ⟨q⟩).filter Step.moves ++ (steps ⟨t⟩).filter Step.moves = l.map .down := by
  have habsolute : isAbsolute ⟨q ++ slash :: t⟩ = isAbsolute ⟨q ++ [slash]⟩ := by cases q <;> rfl
  unfold Names
  rw [habsolute, steps_append_slash, List.filter_append]

theorem names_append_slash (hq : r ≠ []) : Names ⟨r ++ [slash]⟩ l ↔ Names ⟨r⟩ l := by
  have hend : (steps ⟨[]⟩).filter Step.moves = [] := rfl
  rw [names_slash_iff, hend, List.append_nil, isAbsolute_append hq]
  rfl

/-- What does not count at the end of a path does not matter to the location it names. -/
theorem names_dropIdle (h : Names ⟨r.reverse⟩ l) : Names ⟨(dropIdle r).reverse⟩ l := by
  induction r with
  | nil => exact h
  | cons b rest ih =>
    unfold dropIdle
    split
    · rename_i hb
      split
      · rename_i hrest
        simpa [hb, List.isEmpty_iff.1 hrest] using h
      · rename_i hrest
        have hrest' : rest.reverse ≠ [] := by simpa using hrest
        rw [hb, List.reverse_cons, names_append_slash hrest'] at h
        exact ih h
    · split
      · rename_i hdot
        obtain ⟨rfl, hhead⟩ : b = dot ∧ rest.head? = some slash := by simpa using hdot
        obtain ⟨more, rfl⟩ : ∃ more, rest = slash :: more := List.head?_eq_some_iff.1 hhead
        apply ih
        -- a dot behind a slash stays there, and so does the end behind a slash
        have hnames : Names ⟨more.reverse ++ slash :: [dot]⟩ l := by simpa using h
        rw [names_slash_iff] at hnames
        rw [List.reverse_cons, names_slash_iff]
        exact hnames
      · exact h

/-- What counts of a path from the root is the root, or ends in a part behind a slash. -/
theorem dropIdle_cases (h : isAbsolute ⟨r.reverse⟩ = true) : dropIdle r = [slash] ∨
    ∃ part t, dropIdle r = part.reverse ++ slash :: t ∧ slash ∉ part ∧ part ≠ [] ∧ part ≠ [dot] := by
  induction r with
  | nil => cases h
  | cons b rest ih =>
    unfold dropIdle
    split
    · split
      · exact Or.inl rfl
      · rename_i hrest
        have hrest' : rest.reverse ≠ [] := by simpa using hrest
        rw [List.reverse_cons, isAbsolute_append hrest'] at h
        exact ih h
    · rename_i hb
      split
      · rename_i hdot
        obtain ⟨-, hhead⟩ : b = dot ∧ rest.head? = some slash := by simpa using hdot
        have hrest : rest.reverse ≠ [] := by
          intro hnil
          rw [List.reverse_eq_nil_iff.1 hnil] at hhead
          cases hhead
        rw [List.reverse_cons, isAbsolute_append hrest] at h
        exact ih h
      · rename_i hdot
        -- the first slash from the end, which is the one at the root if there is no other
        have hslash : slash ∈ b :: rest := by
          have hhead : (b :: rest).reverse.head? = some slash := by simpa [isAbsolute] using h
          exact List.mem_reverse.1 (List.mem_of_head? hhead)
        obtain ⟨part, t, hcut⟩ := exists_cut hslash
        obtain ⟨hpart, hbytes⟩ := cut_eq_some_iff.1 hcut
        refine Or.inr ⟨part.reverse, t, by rw [List.reverse_reverse, hbytes], by simpa using hpart, ?_, ?_⟩
        · intro hnil
          rw [List.reverse_eq_nil_iff.1 hnil] at hbytes
          exact hb (List.cons.inj hbytes).1
        · intro hone
          rw [List.reverse_eq_iff.1 hone] at hbytes
          obtain ⟨rfl, rfl⟩ := List.cons.inj hbytes
          exact hdot (by simp)

/-- A part of a path from the root that does not go up is a name. -/
theorem isName_of_part {part : List UInt8} (hslash : slash ∉ part) (hempty : part ≠ []) (hdot : part ≠ [dot])
    (hup : stepOf part ≠ .up) : IsName part := by
  refine ⟨hslash, ?_⟩
  unfold stepOf at hup ⊢
  split at hup
  · rename_i hstay
    simp [hempty, hdot] at hstay
  · rename_i hstay
    split at hup
    · exact absurd rfl hup
    · rename_i hdots
      rw [if_neg hstay, if_neg hdots]

/-- **The parent of a path names the location above, and the last name is its own.** The root has neither. -/
theorem names_cases (h : p.Names l) : (l = [] ∧ p.parent? = none ∧ p.fileName? = none) ∨
    ∃ k name q, l = k ++ [name] ∧ p.parent? = some q ∧ q.Names k ∧ p.fileName? = some name := by
  have hbytes : Names ⟨p.bytes.reverse.reverse⟩ l := by rwa [List.reverse_reverse]
  have hnames := names_dropIdle hbytes
  rcases dropIdle_cases hbytes.1 with hroot | ⟨name, t, htail, hslash, hempty, hdot⟩
  · left
    rw [hroot] at hnames
    refine ⟨List.map_eq_nil_iff.1 hnames.2.symm, ?_, ?_⟩
    · simp [parent?, hroot]
    · simp [fileName?, hroot]
  · right
    rw [htail, List.reverse_append, List.reverse_cons, List.reverse_reverse, List.append_assoc, List.singleton_append,
      names_slash_iff] at hnames
    obtain ⟨habsolute, hmoves⟩ := hnames
    have hsteps : steps ⟨name⟩ = [stepOf name] := by
      simp only [steps, splitOn_of_not_mem hslash, List.map_cons, List.map_nil]
    have hup : stepOf name ≠ .up := by
      intro hup
      have hmem : Step.up ∈ l.map Step.down := by
        rw [← hmoves, hsteps, hup]
        exact List.mem_append_right _ (List.mem_singleton_self _)
      simp at hmem
    have hname : IsName name := isName_of_part hslash hempty hdot hup
    rw [steps_name hname] at hmoves
    obtain ⟨k, last, rfl⟩ : ∃ k last, l = k ++ [last] := by
      refine List.eq_nil_or_concat' l |>.resolve_left ?_
      rintro rfl
      simp [Step.moves] at hmoves
    rw [List.map_append] at hmoves
    obtain ⟨hk, hdown⟩ := List.append_inj' hmoves rfl
    cases hdown
    have hkept : dropIdle (name.reverse ++ slash :: t) = name.reverse ++ slash :: t := dropIdle_name hname t
    -- nothing else of the path is looked at
    have hsame : p.parent? = parent? ⟨t.reverse ++ slash :: name⟩ ∧
        p.fileName? = fileName? ⟨t.reverse ++ slash :: name⟩ := by
      constructor <;> simp [parent?, fileName?, htail, hkept]
    refine ⟨k, name, _, rfl, hsame.1.trans (parent?_slash hname t.reverse), ?_,
      hsame.2.trans (fileName?_slash hname t.reverse)⟩
    apply names_dropIdle
    rw [List.reverse_cons, List.reverse_reverse, names_slash_iff]
    exact ⟨habsolute, by rw [hk]; simp [steps, splitOn, stepOf, Step.moves]⟩

theorem Names.ne_nil (h : p.Names l) : p.bytes ≠ [] := by
  intro hnil
  simp [Names, isAbsolute, hnil] at h

/-- A name that is joined to a path is one name more. -/
theorem Names.join (h : p.Names l) (hname : IsName name) : (p.join ⟨name⟩).Names (l ++ [name]) := by
  obtain ⟨q, hjoin, hbase⟩ := Disk.exists_join_slash h.ne_nil hname
  have hq : Names ⟨q ++ [slash]⟩ l := by
    rcases hbase with rfl | rfl
    · exact h
    · exact (names_append_slash h.ne_nil).2 h
  rw [names_slash_iff] at hq
  obtain ⟨habsolute, hmoves⟩ := hq
  have hend : (steps ⟨[]⟩).filter Step.moves = [] := rfl
  rw [hend, List.append_nil] at hmoves
  rw [hjoin, names_slash_iff, steps_name hname, hmoves, List.map_append]
  exact ⟨habsolute, rfl⟩

end Parents

end Path

/-! ## Directories -/

namespace Disk

variable {d : Disk} {p : Path} {l m : Location}

theorem follow?_downs {k : Location} (h : d.follow? (l.map .down) k = some m) : m = k ++ l := by
  induction l generalizing k with
  | nil =>
    cases h
    exact (List.append_nil _).symm
  | cons name l ih =>
    rw [List.map_cons, follow?_cons] at h
    split at h
    · rw [ih h]
      exact List.append_assoc k [name] l
    · cases h

/-- What a plain path leads to is at the location that it names. -/
theorem eq_of_directory? (hp : p.Names l) (h : d.directory? p = some m) : m = l := by
  have horigin : d.origin p = [] := if_pos hp.1
  rw [directory?_eq d hp.ne_nil, ← enter?_moves, hp.2, horigin] at h
  exact follow?_downs (Option.filter_eq_some_iff.1 h).1

end Disk

end DialogueScript
