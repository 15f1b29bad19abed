import Mathlib.Data.List.Basic
import DialogueScript.Disk.Tree
import DialogueScript.Proofs.Text

/-!
# Where paths lead

A path is followed step by step, and every step needs a directory to start from. `Disk.directory?` is the directory that
a path leads to, if there is one. Steps that stay where they are do not matter to it (`enter?_moves`), so neither do
slashes and dots at the end of a path (`directory?_dropIdle`) nor any spelling that the order of paths does not tell
apart (`directory?_of_sortKey`).

A file is looked for by its name in the directory of its path: `locate?_join` says so for a path that is put together,
and `locate?_parent` for a path that is taken apart.
-/

namespace DialogueScript

/-- The place that names lead to from the root. -/
def placeOf (names : List String) : Location := names.map Name.ofText

/-! ## Steps -/

/-- Whether a step leads to another place. -/
def Path.Step.moves : Path.Step → Bool
  | .stay => false
  | .up | .down _ => true

namespace Disk

section Steps

variable (d : Disk) (l : Location)

/-- The directory that steps lead to. -/
def enter? (ss : List Path.Step) (l : Location) : Option Location := (d.follow? ss l).filter d.isDirectory

theorem follow?_append (ss ts : List Path.Step) : d.follow? (ss ++ ts) l = (d.follow? ss l).bind (d.follow? ts) := by
  induction ss generalizing l with
  | nil => rfl
  | cons step ss ih =>
    cases hl : d.isDirectory l with
    | false => simp [follow?, hl]
    | true => cases step <;> simp [follow?, hl, ih]

/-- Steps that lead to a directory need one to start from. -/
theorem enter?_of_not_directory (hl : d.isDirectory l = false) (ss : List Path.Step) : d.enter? ss l = none := by
  cases ss with
  | nil => simp [enter?, follow?, hl]
  | cons step ss => simp [enter?, follow?, hl]

theorem enter?_stay (ss : List Path.Step) : d.enter? (.stay :: ss) l = d.enter? ss l := by
  cases hl : d.isDirectory l with
  | false => rw [enter?_of_not_directory d l hl, enter?_of_not_directory d l hl]
  | true => simp [enter?, follow?, hl]

theorem enter?_append_stay (ss : List Path.Step) : d.enter? (ss ++ [.stay]) l = d.enter? ss l := by
  unfold enter?
  rw [follow?_append]
  cases d.follow? ss l with
  | none => rfl
  | some m => cases hm : d.isDirectory m <;> simp [follow?, Option.filter, hm]

/-- An entry is looked for in the directory that the steps before it lead to. -/
theorem follow?_append_down (ss : List Path.Step) (name : Name) :
    d.follow? (ss ++ [.down name]) l = (d.enter? ss l).map (· ++ [name]) := by
  unfold enter?
  rw [follow?_append]
  cases d.follow? ss l with
  | none => rfl
  | some m => cases hm : d.isDirectory m <;> simp [follow?, Option.filter, hm]

/-- Only the steps that move matter. -/
theorem enter?_moves (ss : List Path.Step) : d.enter? (ss.filter Path.Step.moves) l = d.enter? ss l := by
  induction ss generalizing l with
  | nil => rfl
  | cons step ss ih =>
    cases hl : d.isDirectory l with
    | false => rw [enter?_of_not_directory d l hl, enter?_of_not_directory d l hl]
    | true =>
      cases step with
      | stay =>
        rw [enter?_stay]
        exact ih l
      | up =>
        rw [List.filter_cons_of_pos rfl]
        simpa [enter?, follow?, hl] using ih l.dropLast
      | down name =>
        rw [List.filter_cons_of_pos rfl]
        simpa [enter?, follow?, hl] using ih (l ++ [name])

end Steps

end Disk

/-! ## Paths -/

namespace Disk

variable (d : Disk)

/-- The directory that a path leads to. -/
def directory? (p : Path) : Option Location := (d.locate? p).filter d.isDirectory

/-- Where a path starts. -/
def origin (p : Path) : Location := if p.isAbsolute then [] else d.workingDirectory

theorem locate?_eq {p : Path} (hp : p.bytes ≠ []) : d.locate? p = d.follow? p.steps (d.origin p) := by
  simp [locate?, origin, hp]

theorem directory?_eq {p : Path} (hp : p.bytes ≠ []) : d.directory? p = d.enter? p.steps (d.origin p) := by
  rw [directory?, locate?_eq d hp]
  rfl

end Disk

namespace Path

/-- A name as directories hold them: without a slash, and none of the pieces of a path that stand for no entry. -/
def IsName (name : Name) : Prop := slash ∉ name ∧ stepOf name = .down name

instance (name : Name) : Decidable (IsName name) := inferInstanceAs (Decidable (_ ∧ _))

variable {name : Name} {q : List UInt8}

theorem IsName.ne (h : IsName name) : name ≠ [] ∧ name ≠ [dot] ∧ name ≠ [dot, dot] := by
  refine ⟨?_, ?_, ?_⟩ <;>
  · rintro rfl
    revert h
    decide

theorem steps_append_slash (q t : List UInt8) : steps ⟨q ++ slash :: t⟩ = steps ⟨q⟩ ++ steps ⟨t⟩ := by
  simp only [steps, splitOn_append, List.map_append]

theorem steps_name (h : IsName name) : steps ⟨name⟩ = [.down name] := by
  simp only [steps, splitOn_of_not_mem h.1, List.map_cons, List.map_nil, h.2]

theorem isAbsolute_append (hq : q ≠ []) (t : List UInt8) : isAbsolute ⟨q ++ t⟩ = isAbsolute ⟨q⟩ := by
  cases q with
  | nil => exact absurd rfl hq
  | cons b q => rfl

end Path

theorem isName_of_mem_steps {p : Path} {name : Name} (h : .down name ∈ p.steps) : Path.IsName name := by
  obtain ⟨piece, hpiece, hstep⟩ := List.mem_map.1 h
  have hname : piece = name := by
    unfold Path.stepOf at hstep
    repeat' split at hstep
    all_goals cases hstep
    rfl
  subst hname
  exact ⟨not_mem_of_mem_splitOn hpiece, hstep⟩

namespace Disk

variable (d : Disk) {name : Name} {q : List UInt8}

/-- Where a path starts is known at its first slash. -/
theorem origin_append_slash (q t : List UInt8) :
    d.origin ⟨q ++ Path.slash :: t⟩ = d.origin ⟨q ++ [Path.slash]⟩ := by
  cases q <;> rfl

/-- A slash at the end of a path does not matter to the directory it leads to. -/
theorem directory?_append_slash (hq : q ≠ []) : d.directory? ⟨q ++ [Path.slash]⟩ = d.directory? ⟨q⟩ := by
  have hsteps : Path.steps ⟨q ++ [Path.slash]⟩ = Path.steps ⟨q⟩ ++ [.stay] := Path.steps_append_slash q []
  have horigin : d.origin ⟨q ++ [Path.slash]⟩ = d.origin ⟨q⟩ := by
    unfold origin
    rw [Path.isAbsolute_append hq]
  rw [directory?_eq d (by simp), directory?_eq d (by simpa using hq), hsteps, horigin, enter?_append_stay]

/-- A name behind a slash is looked for in the directory in front of it. -/
theorem locate?_slash (h : Path.IsName name) (q : List UInt8) :
    d.locate? ⟨q ++ Path.slash :: name⟩ = (d.directory? ⟨q ++ [Path.slash]⟩).map (· ++ [name]) := by
  have hsteps : Path.steps ⟨q ++ Path.slash :: name⟩ = Path.steps ⟨q⟩ ++ [.down name] := by
    rw [Path.steps_append_slash, Path.steps_name h]
  have hsteps' : Path.steps ⟨q ++ [Path.slash]⟩ = Path.steps ⟨q⟩ ++ [.stay] := Path.steps_append_slash q []
  rw [locate?_eq d (by simp), hsteps, follow?_append_down, directory?_eq d (by simp), hsteps', enter?_append_stay,
    origin_append_slash]

/-- A name joined to a path stands behind a slash, which the path may end in already. -/
theorem exists_join_slash {base : Path} (hbase : base.bytes ≠ []) (h : Path.IsName name) :
    ∃ q, base.join ⟨name⟩ = ⟨q ++ Path.slash :: name⟩ ∧ (base = ⟨q ++ [Path.slash]⟩ ∨ base = ⟨q⟩) := by
  have hrelative : Path.isAbsolute ⟨name⟩ = false := by
    cases name with
    | nil => rfl
    | cons b name =>
      have hb : b ≠ Path.slash := fun e => h.1 (by simp [e])
      simp [Path.isAbsolute, hb]
  unfold Path.join
  simp only [hrelative, List.isEmpty_iff, hbase, Bool.false_or, if_false, beq_iff_eq]
  split
  · rename_i hlast
    obtain ⟨q, hq⟩ := List.getLast?_eq_some_iff.1 hlast
    exact ⟨q, by rw [hq]; simp, Or.inl (by rw [← hq])⟩
  · exact ⟨base.bytes, by simp, Or.inr rfl⟩

/-- A name joined to a path stands behind a slash, and what is in front of it leads to the same directory. -/
theorem exists_join_eq {base : Path} (hbase : base.bytes ≠ []) (h : Path.IsName name) :
    ∃ q, base.join ⟨name⟩ = ⟨q ++ Path.slash :: name⟩ ∧
      ∀ d : Disk, d.directory? ⟨q ++ [Path.slash]⟩ = d.directory? base := by
  obtain ⟨q, hjoin, rfl | rfl⟩ := exists_join_slash hbase h
  · exact ⟨q, hjoin, fun d => rfl⟩
  · exact ⟨q, hjoin, fun d => directory?_append_slash d hbase⟩

/-- **A file of a directory is looked for by its name where the path of the directory leads.** -/
theorem locate?_join {base : Path} (hbase : base.bytes ≠ []) (h : Path.IsName name) :
    d.locate? (base.join ⟨name⟩) = (d.directory? base).map (· ++ [name]) := by
  obtain ⟨q, hjoin, hq⟩ := exists_join_eq hbase h
  rw [hjoin, locate?_slash d h, hq]

end Disk

/-! ## The parts of a path -/

namespace Path

variable {name : Name}

/-- The end of a path stays when a name stands there. -/
theorem dropIdle_name (h : IsName name) (t : List UInt8) :
    dropIdle (name.reverse ++ slash :: t) = name.reverse ++ slash :: t := by
  obtain ⟨hempty, hdot, -⟩ := h.ne
  obtain ⟨first, b, rfl⟩ := List.eq_nil_or_concat name |>.resolve_left hempty
  have hb : b ≠ slash := fun e => h.1 (by simp [e])
  have hstop : ¬ (b = dot ∧ (first.reverse ++ slash :: t).head? = some slash) := by
    rintro ⟨rfl, hhead⟩
    rcases List.eq_nil_or_concat first with rfl | ⟨more, c, rfl⟩
    · exact hdot rfl
    · have hc : c = slash := by simpa using hhead
      exact h.1 (by simp [hc])
  simp only [List.concat_eq_append, List.reverse_append, List.reverse_cons, List.reverse_nil, List.nil_append,
    List.cons_append, dropIdle, hb, if_false]
  rw [if_neg (by simpa using hstop)]

theorem takeWhile_name (h : slash ∉ name) (t : List UInt8) :
    (name.reverse ++ slash :: t).takeWhile (· != slash) = name.reverse ∧
      (name.reverse ++ slash :: t).dropWhile (· != slash) = slash :: t := by
  have hname : ∀ b ∈ name.reverse, (b != slash) = true := by
    intro b hb
    have : b ≠ slash := by
      rintro rfl
      exact h (List.mem_reverse.1 hb)
    simpa using this
  rw [List.takeWhile_append_of_pos hname, List.dropWhile_append_of_pos hname]
  simp

/-- A path ends in the name behind its last slash. -/
theorem fileName?_slash (h : IsName name) (q : List UInt8) : fileName? ⟨q ++ slash :: name⟩ = some name := by
  have hreverse : (q ++ slash :: name).reverse = name.reverse ++ slash :: q.reverse := by simp
  obtain ⟨hempty, hdot, hdots⟩ := h.ne
  unfold fileName?
  simp only [hreverse, dropIdle_name h, takeWhile_name h.1, List.reverse_reverse, hempty, hdot, hdots, decide_false,
    Bool.or_self, Bool.false_eq_true, if_false]

/-- The path of a file without its name. -/
theorem parent?_slash (h : IsName name) (q : List UInt8) :
    parent? ⟨q ++ slash :: name⟩ = some ⟨(dropIdle (slash :: q.reverse)).reverse⟩ := by
  have hreverse : (q ++ slash :: name).reverse = name.reverse ++ slash :: q.reverse := by simp
  have hempty : (name.reverse ++ slash :: q.reverse).isEmpty = false := by simp
  have hroot : name.reverse ++ slash :: q.reverse ≠ [slash] := by
    intro e
    have hlength := congrArg List.length e
    have hname : name.length ≠ 0 := by simpa using h.ne.1
    simp at hlength
    omega
  unfold parent?
  simp only [hreverse, dropIdle_name h, hempty, hroot, takeWhile_name h.1, decide_false, Bool.or_self,
    Bool.false_eq_true, if_false]

end Path

namespace Disk

variable (d : Disk) {name : Name} {r : List UInt8}

/-- What does not count at the end of a path does not matter to the directory it leads to. -/
theorem directory?_dropIdle (hr : r ≠ []) : d.directory? ⟨(Path.dropIdle r).reverse⟩ = d.directory? ⟨r.reverse⟩ := by
  induction r with
  | nil => exact absurd rfl hr
  | cons b rest ih =>
    unfold Path.dropIdle
    split
    · rename_i hb
      split
      · rename_i hrest
        simp [hb, List.isEmpty_iff.1 hrest]
      · rename_i hrest
        have hrest' : rest ≠ [] := by simpa using hrest
        rw [ih hrest', hb, List.reverse_cons, directory?_append_slash d (by simpa using hrest')]
    · split
      · rename_i hdot
        obtain ⟨rfl, hhead⟩ : b = Path.dot ∧ rest.head? = some Path.slash := by simpa using hdot
        obtain ⟨more, rfl⟩ : ∃ more, rest = Path.slash :: more := List.head?_eq_some_iff.1 hhead
        rw [ih (by simp)]
        -- a dot behind a slash is one step that stays, and so is the end behind a slash
        have hsteps : Path.steps ⟨more.reverse ++ [Path.slash, Path.dot]⟩ =
            Path.steps ⟨more.reverse ++ [Path.slash]⟩ := by
          rw [Path.steps_append_slash, Path.steps_append_slash]
          rfl
        simp only [List.reverse_cons, List.append_assoc, List.cons_append, List.nil_append]
        rw [directory?_eq d (by simp), directory?_eq d (by simp), hsteps, origin_append_slash d _ [Path.dot]]
      · rfl

/-- **A file is looked for by its name in the directory that the rest of its path leads to.** -/
theorem locate?_parent (h : Path.IsName name) (q : List UInt8) : ∃ p, Path.parent? ⟨q ++ Path.slash :: name⟩ = some p ∧
    ∀ d : Disk, d.locate? ⟨q ++ Path.slash :: name⟩ = (d.directory? p).map (· ++ [name]) := by
  refine ⟨_, Path.parent?_slash h q, fun d => ?_⟩
  rw [directory?_dropIdle d (by simp), locate?_slash d h]
  simp

end Disk

/-! ## Spellings -/

namespace Path

/-- What a step counts for in the order of paths. -/
def moveKey : Step → Option (Nat × Name)
  | .stay => none
  | .up => some (2, [])
  | .down name => some (3, name)

theorem sortKey_eq (p : Path) : sortKey p =
    (if p.isAbsolute then [(0, [])] else if p.steps.head? == some .stay then [(1, [])] else []) ++
      p.steps.filterMap moveKey := rfl

theorem two_le_of_mem_moves {ss : List Step} {k : Nat × Name} (h : k ∈ ss.filterMap moveKey) : 2 ≤ k.1 := by
  obtain ⟨step, -, hk⟩ := List.mem_filterMap.1 h
  cases step with
  | stay => cases hk
  | up | down =>
    cases hk
    simp

/-- The moves of a path are part of its key. -/
theorem moves_of_sortKey (p : Path) : (sortKey p).filter (2 ≤ ·.1) = p.steps.filterMap moveKey := by
  have hmoves : (p.steps.filterMap moveKey).filter (2 ≤ ·.1) = p.steps.filterMap moveKey :=
    List.filter_eq_self.2 fun k hk => by simpa using two_le_of_mem_moves hk
  rw [sortKey_eq, List.filter_append, hmoves]
  split
  · rfl
  · split
    · rfl
    · rfl

theorem isAbsolute_iff_sortKey (p : Path) : p.isAbsolute = true ↔ (0, []) ∈ sortKey p := by
  rw [sortKey_eq, List.mem_append]
  constructor
  · intro h
    rw [if_pos h]
    exact Or.inl (by simp)
  · rintro (h | h)
    · by_contra hp
      rw [if_neg hp] at h
      split at h
      · simp at h
      · simp at h
    · exact absurd (two_le_of_mem_moves h) (by decide)

/-- The steps that move can be read off their keys. -/
theorem filter_moves_eq (ss : List Step) :
    ss.filter Step.moves = (ss.filterMap moveKey).map fun k => if k.1 = 2 then .up else .down k.2 := by
  induction ss with
  | nil => rfl
  | cons step ss ih =>
    cases step with
    | stay => exact ih
    | up => exact congrArg (Step.up :: ·) ih
    | down name => exact congrArg (Step.down name :: ·) ih

end Path

/-- Paths that the order of paths does not tell apart lead to the same directory. -/
theorem Disk.directory?_of_sortKey (d : Disk) {p q : Path} (hp : p.bytes ≠ []) (hq : q.bytes ≠ [])
    (h : p.sortKey = q.sortKey) : d.directory? p = d.directory? q := by
  have habsolute : p.isAbsolute = q.isAbsolute := by
    rw [Bool.eq_iff_iff, Path.isAbsolute_iff_sortKey, Path.isAbsolute_iff_sortKey, h]
  have hmoves : p.steps.filter Path.Step.moves = q.steps.filter Path.Step.moves := by
    rw [Path.filter_moves_eq, Path.filter_moves_eq, ← Path.moves_of_sortKey, ← Path.moves_of_sortKey, h]
  rw [directory?_eq d hp, directory?_eq d hq, ← enter?_moves, hmoves, enter?_moves]
  unfold origin
  rw [habsolute]

end DialogueScript
