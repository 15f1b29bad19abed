import Mathlib.Data.List.Sort
import DialogueScript.Proofs.Disk.Names
import DialogueScript.Proofs.Watcher

/-!
# What a watcher reports

A watcher keeps the names and the directories of its files apart, so it reports any of the names in any of the
directories. `Watcher.Covered` says it without the watcher: the directory of a path was there at the start and is that
of some file, and its last name is that of some file, perhaps another.

* A watcher sees a name in a directory exactly if files of its list have them (`start_sees_iff`, `covered_iff`), and it
  reports a change there under a path of the place (`names_of_report?`).
* As long as the watched directories stay, it goes on like that: nothing but the touched places that it sees is reported
  (`Keeps.reports`, `observe_of_kept`).
* The watched directories come in the order of paths, which leaves no choice (`map_sortKey_sorted`). So neither they nor
  the reports depend on the order of the files (`forall₂_watchedDirectories`, `forall₂_observe`).
-/

namespace DialogueScript

/-! ## The order of paths -/

namespace Path

section Keys

variable {a b c : List (Nat × Name)}

theorem keyBefore_cons_iff {m n : Nat} {x y : Name} : keyBefore ((m, x) :: a) ((n, y) :: b) = true ↔
    m < n ∨ m = n ∧ (x < y ∨ x = y ∧ keyBefore a b = true) := by
  rw [keyBefore]
  by_cases hm : m = n
  · subst hm
    by_cases hx : x = y
    · subst hx
      simp [List.lt_irrefl]
    · simp [hx]
  · simp [hm]

theorem keyBefore_irrefl (a : List (Nat × Name)) : ¬ keyBefore a a = true := by
  induction a with
  | nil => exact Bool.false_ne_true
  | cons k a ih =>
    rw [keyBefore_cons_iff]
    rintro (h | ⟨-, h | ⟨-, h⟩⟩)
    · exact Nat.lt_irrefl _ h
    · exact List.lt_irrefl _ h
    · exact ih h

theorem keyBefore_trans (hab : keyBefore a b = true) (hbc : keyBefore b c = true) : keyBefore a c = true := by
  induction a generalizing b c with
  | nil =>
    cases c with
    | nil => cases b <;> cases hbc
    | cons z c => rfl
  | cons x a ih =>
    cases b with
    | nil => cases hab
    | cons y b =>
      cases c with
      | nil => cases hbc
      | cons z c =>
        rw [keyBefore_cons_iff] at hab hbc ⊢
        rcases hab with h | ⟨h, hab⟩
        · rcases hbc with h' | ⟨h', -⟩
          · exact Or.inl (Nat.lt_trans h h')
          · exact Or.inl (h' ▸ h)
        · rcases hbc with h' | ⟨h', hbc⟩
          · exact Or.inl (h ▸ h')
          · refine Or.inr ⟨h.trans h', ?_⟩
            rcases hab with g | ⟨g, hab⟩
            · rcases hbc with g' | ⟨g', -⟩
              · exact Or.inl (List.lt_trans g g')
              · exact Or.inl (g' ▸ g)
            · rcases hbc with g' | ⟨g', hbc⟩
              · exact Or.inl (g ▸ g')
              · exact Or.inr ⟨g.trans g', ih hab hbc⟩

theorem keyBefore_trichotomy (a b : List (Nat × Name)) : keyBefore a b = true ∨ a = b ∨ keyBefore b a = true := by
  induction a generalizing b with
  | nil =>
    cases b with
    | nil => exact Or.inr (Or.inl rfl)
    | cons y b => exact Or.inl rfl
  | cons x a ih =>
    cases b with
    | nil => exact Or.inr (Or.inr rfl)
    | cons y b =>
      rw [keyBefore_cons_iff, keyBefore_cons_iff, List.cons.injEq, Prod.ext_iff]
      rcases Nat.lt_trichotomy x.1 y.1 with h | h | h
      · exact Or.inl (Or.inl h)
      · rcases Std.lt_trichotomy x.2 y.2 with g | g | g
        · exact Or.inl (Or.inr ⟨h, Or.inl g⟩)
        · rcases ih b with hrest | rfl | hrest
          · exact Or.inl (Or.inr ⟨h, Or.inr ⟨g, hrest⟩⟩)
          · exact Or.inr (Or.inl ⟨⟨h, g⟩, rfl⟩)
          · exact Or.inr (Or.inr (Or.inr ⟨h.symm, Or.inr ⟨g.symm, hrest⟩⟩))
        · exact Or.inr (Or.inr (Or.inr ⟨h.symm, Or.inl g⟩))
      · exact Or.inr (Or.inr (Or.inl h))

/-- One path comes before another. -/
def Before (p q : Path) : Prop := keyBefore p.sortKey q.sortKey = true

end Keys

section Sorted

variable {p : Path} {ps qs : List Path}

theorem pairwise_insertOrdered (p : Path) (h : qs.Pairwise Before) : (insertOrdered p qs).Pairwise Before := by
  induction qs with
  | nil => exact List.pairwise_singleton Before p
  | cons q qs ih =>
    obtain ⟨hq, hqs⟩ := List.pairwise_cons.1 h
    unfold insertOrdered
    split
    · -- the same place in the order
      rename_i hkey
      refine List.pairwise_cons.2 ⟨fun r hr => ?_, hqs⟩
      unfold Before
      rw [hkey]
      exact hq r hr
    · rename_i hkey
      split
      · rename_i hbefore
        refine List.pairwise_cons.2 ⟨fun r hr => ?_, h⟩
        rcases List.mem_cons.1 hr with rfl | hr
        · exact hbefore
        · exact keyBefore_trans hbefore (hq r hr)
      · rename_i hbefore
        refine List.pairwise_cons.2 ⟨fun r hr => ?_, ih hqs⟩
        rcases of_mem_insertOrdered hr with rfl | hr
        · exact ((keyBefore_trichotomy _ _).resolve_left hbefore).resolve_left hkey
        · exact hq r hr

theorem pairwise_sorted (ps : List Path) : (sorted ps).Pairwise Before := by
  have hfold : ∀ (ps qs : List Path), qs.Pairwise Before →
      (ps.foldl (fun acc p => insertOrdered p acc) qs).Pairwise Before := by
    intro ps
    induction ps with
    | nil => exact fun _ h => h
    | cons p ps ih => exact fun qs h => ih _ (pairwise_insertOrdered p h)
  exact hfold ps [] List.Pairwise.nil

theorem mem_of_mem_sorted (h : p ∈ sorted ps) : p ∈ ps :=
  (of_mem_foldl_insertOrdered h).resolve_left List.not_mem_nil

/-- **The order of paths leaves no choice**: of two lists with the same paths the ordered ones have the same parts. -/
theorem map_sortKey_sorted (h : ∀ p, p ∈ ps ↔ p ∈ qs) : (sorted ps).map sortKey = (sorted qs).map sortKey := by
  have hirrefl : Std.Irrefl fun a b : List (Nat × Name) => keyBefore a b = true := ⟨keyBefore_irrefl⟩
  have hantisymm : Std.Antisymm fun a b : List (Nat × Name) => keyBefore a b = true :=
    ⟨fun a b hab hba => absurd (keyBefore_trans hab hba) (keyBefore_irrefl a)⟩
  have hpairwise : ∀ rs, ((sorted rs).map sortKey).Pairwise fun a b => keyBefore a b = true := fun rs =>
    List.pairwise_map.2 (pairwise_sorted rs)
  have hsubset : ∀ {rs ts : List Path}, (∀ p, p ∈ rs → p ∈ ts) → ∀ key, key ∈ (sorted rs).map sortKey →
      key ∈ (sorted ts).map sortKey := by
    intro rs ts hrs key hkey
    obtain ⟨p, hp, rfl⟩ := List.mem_map.1 hkey
    obtain ⟨q, hq, -, hsame⟩ := exists_sorted (hrs p (mem_of_mem_sorted hp))
    exact List.mem_map.2 ⟨q, hq, hsame⟩
  exact (hpairwise ps).eq_of_mem_iff (hpairwise qs) fun key =>
    ⟨hsubset (fun p => (h p).1) key, hsubset (fun p => (h p).2) key⟩

end Sorted

end Path

namespace Watcher

/-! ## What is seen -/

/-- A path is covered by files: its directory was there at the start and is the directory of one of them, and its last
name is that of one of them, which need not be the same. -/
structure Covered (d : Disk) (files : List Path) (p : Path) : Prop where
  directory : ∃ f ∈ files, ∃ dir dir', f.parent? = some dir ∧ p.parent? = some dir' ∧ dir'.Same dir ∧
    d.directory? dir' ≠ none
  name : ∃ f ∈ files, ∃ name, f.fileName? = some name ∧ p.fileName? = some name

section Seen

variable {w : Watcher} {d : Disk} {files : List Path} {dir p r : Path} {l k : Location} {name : Name}

theorem mem_directories_iff : (dir, l) ∈ (start d files).directories ↔
    dir ∈ Path.sorted (files.filterMap Path.parent?) ∧ d.directory? dir = some l := by
  simp only [start, List.mem_filterMap, directoryAt?_eq, Option.map_eq_some_iff, Prod.mk.injEq]
  constructor
  · rintro ⟨_, hmem, _, hdir, rfl, rfl⟩
    exact ⟨hmem, hdir⟩
  · rintro ⟨hmem, hdir⟩
    exact ⟨dir, hmem, l, hdir, rfl, rfl⟩

theorem mem_of_pathOf? (h : w.pathOf? l = some dir) : (dir, l) ∈ w.directories := by
  obtain ⟨⟨dir', l'⟩, hfind, rfl⟩ := Option.map_eq_some_iff.1 h
  obtain rfl : l' = l := by simpa using List.find?_some hfind
  exact List.mem_reverse.1 (List.mem_of_find?_eq_some hfind)

/-- What is reported is a name in a watched directory. -/
theorem exists_of_report? (h : w.report? k = some r) : ∃ l name dir, k = l ++ [name] ∧ (dir, l) ∈ w.directories ∧
    name ∈ w.names ∧ r = dir.join ⟨name⟩ := by
  simp only [report?, Option.bind_eq_bind, Option.bind_eq_some_iff] at h
  obtain ⟨name, hlast, dir, hpath, h⟩ := h
  split at h
  · rename_i hname
    cases h
    refine ⟨k.dropLast, name, dir, ?_, mem_of_pathOf? hpath, List.contains_iff_mem.1 hname, rfl⟩
    exact (List.dropLast_append_getLast? name hlast).symm
  · cases h

/-- A listed file whose directory is there is covered. -/
theorem covered_of_mem {f : Path} (hf : f ∈ files) (hl : f.Names k) (hhome : d.home? f ≠ none) :
    Covered d files f := by
  obtain ⟨m, hm⟩ := Option.ne_none_iff_exists'.1 hhome
  obtain ⟨dir, hparent, hdir⟩ := Option.bind_eq_some_iff.1 hm
  rcases Path.names_cases hl with ⟨-, hnone, -⟩ | ⟨_, name, _, -, -, -, hname⟩
  · rw [hnone] at hparent
    cases hparent
  · exact ⟨⟨f, hf, dir, dir, hparent, hparent, rfl, by rw [hdir]; exact Option.some_ne_none m⟩,
      f, hf, name, hname, hname⟩

variable (hfiles : ∀ f ∈ files, f.IsPlain)

include hfiles

/-- The directory of a listed file names the location above it. -/
theorem names_of_mem_parents (h : dir ∈ files.filterMap Path.parent?) : ∃ l, dir.Names l := by
  obtain ⟨f, hf, hparent⟩ := List.mem_filterMap.1 h
  obtain ⟨l, hl⟩ := Path.isPlain_iff.1 (hfiles f hf)
  rcases Path.names_cases hl with ⟨-, hnone, -⟩ | ⟨k, _, q, -, hq, hk, -⟩
  · rw [hnone] at hparent
    cases hparent
  · rw [hq] at hparent
    cases hparent
    exact ⟨k, hk⟩

theorem names_of_mem_directories (h : (dir, l) ∈ (start d files).directories) : dir.Names l := by
  obtain ⟨hmem, hdir⟩ := mem_directories_iff.1 h
  obtain ⟨k, hk⟩ := names_of_mem_parents hfiles (Path.mem_of_mem_sorted hmem)
  rwa [Disk.eq_of_directory? hk hdir]

theorem isName_of_mem_names (h : name ∈ (start d files).names) : Path.IsName name := by
  obtain ⟨f, hf, hname⟩ := List.mem_filterMap.1 h
  obtain ⟨l, hl⟩ := Path.isPlain_iff.1 (hfiles f hf)
  rcases Path.names_cases hl with ⟨-, -, hnone⟩ | ⟨k, last, _, rfl, -, -, hlast⟩
  · rw [hnone] at hname
    cases hname
  · rw [hlast] at hname
    cases hname
    exact hl.isName (by simp)

/-- **A watcher sees the names of its files in the directories of its files.** -/
theorem start_sees_iff : (start d files).Sees l name ↔
    (∃ f ∈ files, d.home? f = some l) ∧ ∃ f ∈ files, f.fileName? = some name := by
  have hname : name ∈ (start d files).names ↔ ∃ f ∈ files, f.fileName? = some name := List.mem_filterMap
  unfold Sees
  rw [hname, and_comm]
  refine and_congr_left fun _ => ⟨?_, ?_⟩
  · rintro ⟨dir, hdir⟩
    obtain ⟨hmem, hthere⟩ := mem_directories_iff.1 hdir
    obtain ⟨f, hf, hparent⟩ := List.mem_filterMap.1 (Path.mem_of_mem_sorted hmem)
    refine ⟨f, hf, ?_⟩
    rw [Disk.home?, hparent, Option.bind_some, hthere]
  · rintro ⟨f, hf, hhome⟩
    obtain ⟨dir, hparent, hdir⟩ := Option.bind_eq_some_iff.1 hhome
    have hmem : dir ∈ files.filterMap Path.parent? := List.mem_filterMap.2 ⟨f, hf, hparent⟩
    -- the spelling that is kept leads to the same directory
    obtain ⟨kept, hsorted, hkept, hsame⟩ := Path.exists_sorted hmem
    obtain ⟨_, hdirNames⟩ := names_of_mem_parents hfiles hmem
    obtain ⟨_, hkeptNames⟩ := names_of_mem_parents hfiles hkept
    refine ⟨kept, mem_directories_iff.2 ⟨hsorted, ?_⟩⟩
    rw [d.directory?_of_sortKey hkeptNames.ne_nil hdirNames.ne_nil hsame, hdir]

/-- A change is reported under a path of the place that it touches. -/
theorem names_of_report? (h : (start d files).report? k = some r) : r.Names k := by
  obtain ⟨l, name, dir, rfl, hdir, hname, rfl⟩ := exists_of_report? h
  exact (names_of_mem_directories hfiles hdir).join (isName_of_mem_names hfiles hname)

/-- A path is covered exactly if the watcher sees its last name in its directory. -/
theorem covered_iff (hp : p.Names k) : Covered d files p ↔ ∃ l name, k = l ++ [name] ∧ (start d files).Sees l name := by
  rcases Path.names_cases hp with ⟨rfl, hnone, -⟩ | ⟨l, name, q, rfl, hparent, hq, hname⟩
  · constructor
    · rintro ⟨⟨_, -, _, _, -, hsome, -, -⟩, -⟩
      rw [hnone] at hsome
      cases hsome
    · rintro ⟨l, name, hnil, -⟩
      simp at hnil
  · constructor
    · rintro ⟨⟨f, hf, dir, q', hfparent, hq', hsame, hthere⟩, ⟨g, hg, name', hgname, hname'⟩⟩
      cases hparent.symm.trans hq'
      cases hname.symm.trans hname'
      refine ⟨l, name, rfl, (start_sees_iff hfiles).2 ⟨⟨f, hf, ?_⟩, g, hg, hgname⟩⟩
      obtain ⟨m, hm⟩ := Option.ne_none_iff_exists'.1 hthere
      obtain rfl := Disk.eq_of_directory? hq hm
      have hdir : dir.Names m := hq.of_same hsame.symm
      rw [Disk.home?, hfparent, Option.bind_some, ← d.directory?_of_sortKey hq.ne_nil hdir.ne_nil hsame, hm]
    · rintro ⟨l', name', heq, hsees⟩
      obtain ⟨rfl, hlast⟩ := List.append_inj' heq rfl
      cases hlast
      obtain ⟨⟨f, hf, hhome⟩, g, hg, hgname⟩ := (start_sees_iff hfiles).1 hsees
      obtain ⟨dir, hfparent, hdir⟩ := Option.bind_eq_some_iff.1 hhome
      obtain ⟨m, hm⟩ := names_of_mem_parents hfiles (List.mem_filterMap.2 ⟨f, hf, hfparent⟩)
      obtain rfl := Disk.eq_of_directory? hm hdir
      refine ⟨⟨f, hf, dir, q, hfparent, hparent, hq.same hm, ?_⟩, g, hg, name, hgname, hname⟩
      rw [d.directory?_of_sortKey hq.ne_nil hm.ne_nil (hq.same hm), hdir]
      exact Option.some_ne_none _

theorem exists_report?_iff (hp : p.Names k) : (∃ r, (start d files).report? k = some r) ↔ Covered d files p := by
  rw [covered_iff hfiles hp]
  constructor
  · rintro ⟨r, hr⟩
    obtain ⟨l, name, dir, rfl, hdir, hname, -⟩ := exists_of_report? hr
    exact ⟨l, name, rfl, hname, dir, hdir⟩
  · rintro ⟨l, name, rfl, hsees⟩
    exact hsees.exists_report?

/-- What is reported has a watched directory for its parent. -/
theorem exists_parent_of_report? (h : (start d files).report? k = some r) :
    ∃ dir ∈ (start d files).watchedDirectories, ∃ parent, r.parent? = some parent ∧ parent.Same dir := by
  have hr := names_of_report? hfiles h
  obtain ⟨l, name, dir, rfl, hdir, -, -⟩ := exists_of_report? h
  refine ⟨dir, List.mem_map.2 ⟨(dir, l), hdir, rfl⟩, ?_⟩
  rcases Path.names_cases hr with ⟨hnil, -⟩ | ⟨k, _, parent, heq, hparent, hk, -⟩
  · simp at hnil
  · obtain ⟨rfl, -⟩ := List.append_inj' heq rfl
    exact ⟨parent, hparent, hk.same (names_of_mem_directories hfiles hdir)⟩

/-- Of the touched places those with a covered path are reported. -/
theorem exists_reported_iff (touched : List Location) :
    (∃ r ∈ touched.filterMap (start d files).report?, r.Same p) ↔
      (∃ l ∈ touched, p.Names l) ∧ Covered d files p := by
  constructor
  · rintro ⟨r, hr, hsame⟩
    obtain ⟨l, hl, hreport⟩ := List.mem_filterMap.1 hr
    have hp : p.Names l := (names_of_report? hfiles hreport).of_same hsame.symm
    exact ⟨⟨l, hl, hp⟩, (exists_report?_iff hfiles hp).1 ⟨r, hreport⟩⟩
  · rintro ⟨⟨l, hl, hp⟩, hcovered⟩
    obtain ⟨r, hreport⟩ := (exists_report?_iff hfiles hp).2 hcovered
    exact ⟨r, List.mem_filterMap.2 ⟨l, hl, hreport⟩, (names_of_report? hfiles hreport).same hp⟩

end Seen

/-! ## Courses of changes -/

section Courses

variable {w w' : Watcher} {d : Disk} {c : Disk.Change} {changes : List Disk.Change}

/-- The paths that a watcher reports in a course of changes, change by change. -/
def observe (w : Watcher) (d : Disk) : List Disk.Change → List (List Path)
  | [] => []
  | c :: changes => w.reports d c :: (w.after c).observe (d.apply c) changes

/-- A change leaves the watched directories in place. -/
def Keeps (w : Watcher) (c : Disk.Change) : Prop := ∀ entry ∈ w.directories, c.removes entry.2 = false

/-- The watched directories are those of the files. -/
theorem keeps_start {files : List Path} (h : ∀ f ∈ files, ∀ l, d.home? f = some l → c.removes l = false) :
    (start d files).Keeps c := by
  rintro ⟨dir, l⟩ hdir
  obtain ⟨hmem, hthere⟩ := mem_directories_iff.1 hdir
  obtain ⟨f, hf, hparent⟩ := List.mem_filterMap.1 (Path.mem_of_mem_sorted hmem)
  refine h f hf l ?_
  rw [Disk.home?, hparent, Option.bind_some, hthere]

theorem Keeps.after (h : w.Keeps c) : w.after c = w := by
  cases c with
  | put l e => rfl
  | remove l =>
    have hall : w.directories.filter (fun entry => !Disk.isWithin entry.2 l) = w.directories := by
      rw [List.filter_eq_self]
      intro entry hentry
      have hkept : Disk.isWithin entry.2 l = false := h entry hentry
      simp [hkept]
    simp only [Watcher.after, hall]

/-- **As long as the watched directories stay, the touched names are reported and nothing else is.** -/
theorem Keeps.reports (h : w.Keeps c) (d : Disk) : w.reports d c = (d.touched c).filterMap w.report? := by
  cases c with
  | put l e => rfl
  | remove l =>
    rw [List.filterMap_eq_flatMap_toList]
    refine List.flatMap_congr fun k hk => ?_
    have hwithin : Disk.isWithin k l = true := (List.mem_filter.1 (List.mem_reverse.1 hk)).2
    have hnone : w.reportLoss? k = none := by
      cases hpath : w.pathOf? k with
      | none => simp [reportLoss?, hpath]
      | some dir =>
        -- a watched directory is not among what is removed
        have hkept : Disk.isWithin k l = false := h _ (mem_of_pathOf? hpath)
        rw [hwithin] at hkept
        cases hkept
    rw [hnone, Option.toList_none, List.append_nil]

theorem observe_of_kept (h : ∀ c ∈ changes, w.Keeps c) {n : Nat} (hc : changes[n]? = some c) :
    (w.observe d changes)[n]? =
      some ((((changes.take n).foldl Disk.apply d).touched c).filterMap w.report?) := by
  induction changes generalizing d n with
  | nil => cases hc
  | cons first changes ih =>
    have hfirst := h first List.mem_cons_self
    cases n with
    | zero =>
      cases hc
      exact congrArg some (hfirst.reports d)
    | succ n =>
      have hrest := ih (d := d.apply first) (fun c' hc' => h c' (List.mem_cons_of_mem first hc')) hc
      rw [observe, List.getElem?_cons_succ, hfirst.after, hrest, List.take_succ_cons, List.foldl_cons]

/-- Watchers that report the same places report the same in a course of changes. -/
theorem forall₂_observe (h : ∀ c ∈ changes, w.Keeps c) (h' : ∀ c ∈ changes, w'.Keeps c)
    (hsame : ∀ k, Option.Rel Path.Same (w'.report? k) (w.report? k)) :
    List.Forall₂ (List.Forall₂ Path.Same) (w'.observe d changes) (w.observe d changes) := by
  induction changes generalizing d with
  | nil => exact .nil
  | cons c changes ih =>
    have hfirst := h c List.mem_cons_self
    have hfirst' := h' c List.mem_cons_self
    have hrest := ih (d := d.apply c) (fun e he => h e (List.mem_cons_of_mem c he))
      fun e he => h' e (List.mem_cons_of_mem c he)
    rw [observe, observe, hfirst.after, hfirst'.after, hfirst.reports, hfirst'.reports]
    refine .cons (List.rel_filterMap (R := Eq) ?_ (List.forall₂_refl _)) hrest
    rintro k _ rfl
    exact hsame k

end Courses

/-! ## The order of the files -/

section Order

variable {d : Disk} {files files' : List Path} (hfiles : ∀ f ∈ files, f.IsPlain)
  (hsame : ∀ f, f ∈ files' ↔ f ∈ files)

include hfiles hsame

/-- The same places are reported, however the files are listed. -/
theorem report?_same (k : Location) :
    Option.Rel Path.Same ((start d files').report? k) ((start d files).report? k) := by
  have hfiles' : ∀ f ∈ files', f.IsPlain := fun f hf => hfiles f ((hsame f).1 hf)
  have hcovered : ∀ p, Covered d files' p ↔ Covered d files p := by
    intro p
    constructor
    · rintro ⟨⟨f, hf, hdir⟩, g, hg, hname⟩
      exact ⟨⟨f, (hsame f).1 hf, hdir⟩, g, (hsame g).1 hg, hname⟩
    · rintro ⟨⟨f, hf, hdir⟩, g, hg, hname⟩
      exact ⟨⟨f, (hsame f).2 hf, hdir⟩, g, (hsame g).2 hg, hname⟩
  cases hr : (start d files).report? k with
  | none =>
    cases hr' : (start d files').report? k with
    | none => exact .none
    | some r' =>
      have hnames := names_of_report? hfiles' hr'
      obtain ⟨r, hr⟩ := (exists_report?_iff hfiles hnames).2 ((hcovered r').1
        ((exists_report?_iff hfiles' hnames).1 ⟨r', hr'⟩))
      simp_all
  | some r =>
    have hnames := names_of_report? hfiles hr
    obtain ⟨r', hr'⟩ := (exists_report?_iff hfiles' hnames).2 ((hcovered r).2
      ((exists_report?_iff hfiles hnames).1 ⟨r, hr⟩))
    rw [hr']
    exact .some ((names_of_report? hfiles' hr').same hnames)

/-- The same directories are watched, in the same order, however the files are listed. -/
theorem forall₂_watchedDirectories :
    List.Forall₂ Path.Same (start d files').watchedDirectories (start d files).watchedDirectories := by
  have hfiles' : ∀ f ∈ files', f.IsPlain := fun f hf => hfiles f ((hsame f).1 hf)
  have hparents : ∀ dir, dir ∈ files'.filterMap Path.parent? ↔ dir ∈ files.filterMap Path.parent? := by
    intro dir
    simp only [List.mem_filterMap, hsame]
  have hsorted : List.Forall₂ Path.Same (Path.sorted (files'.filterMap Path.parent?))
      (Path.sorted (files.filterMap Path.parent?)) := by
    have hkeys := Path.map_sortKey_sorted hparents
    rw [← List.forall₂_eq_eq_eq, List.forall₂_map_left_iff, List.forall₂_map_right_iff] at hkeys
    exact hkeys
  have hplain : ∀ dir ∈ Path.sorted (files'.filterMap Path.parent?), ∃ l, dir.Names l := fun dir hdir =>
    names_of_mem_parents hfiles' (Path.mem_of_mem_sorted hdir)
  unfold watchedDirectories start
  rw [List.forall₂_map_left_iff, List.forall₂_map_right_iff]
  refine List.rel_filterMap ?_ ((List.forall₂_and_left _ _).2 ⟨hplain, hsorted⟩)
  rintro dir' dir ⟨⟨l, hl⟩, hdirs⟩
  have hl' : dir.Names l := hl.of_same hdirs.symm
  rw [directoryAt?_eq, directoryAt?_eq, d.directory?_of_sortKey hl.ne_nil hl'.ne_nil hdirs]
  cases d.directory? dir with
  | none => exact .none
  | some m => exact .some hdirs

end Order

/-- **A watcher reports the changes that its files cover, and nothing else.** Its files are given by paths from the root
that never go up, and nothing removes the watched directories. Then a path is reported at a change exactly if the change
touches it and it is covered; whatever is reported is in a watched directory. On a tree, a listed file whose directory
was there at the start is reported whenever it is made, rewritten or removed. Up to how paths are written, neither the
watched directories nor the reports depend on the order of the files or on repetitions among them. -/
theorem reports_covered_changes {files : List Path} (hfiles : ∀ f ∈ files, f.IsPlain) (d : Disk)
    {changes : List Disk.Change}
    (hkept : ∀ c ∈ changes, ∀ f ∈ files, ∀ l, d.home? f = some l → c.removes l = false) :
    (∀ n c, changes[n]? = some c → ∃ seen, ((start d files).observe d changes)[n]? = some seen ∧
      let now := (changes.take n).foldl Disk.apply d
      (∀ p : Path, p.IsPlain →
        ((∃ r ∈ seen, r.Same p) ↔ (∃ l ∈ now.touched c, p.Names l) ∧ Covered d files p)) ∧
      (∀ r ∈ seen, r.IsPlain ∧
        ∃ dir ∈ (start d files).watchedDirectories, ∃ parent, r.parent? = some parent ∧ parent.Same dir) ∧
      (d.IsTree → ∀ f ∈ files, d.home? f ≠ none → ∀ l, f.Names l → now.Alters c l → ∃ r ∈ seen, r.Same f)) ∧
      ∀ files', (∀ f, f ∈ files' ↔ f ∈ files) →
        List.Forall₂ Path.Same (start d files').watchedDirectories (start d files).watchedDirectories ∧
        List.Forall₂ (List.Forall₂ Path.Same) ((start d files').observe d changes)
          ((start d files).observe d changes) := by
  have hkeeps : ∀ {files' : List Path}, (∀ f, f ∈ files' ↔ f ∈ files) → ∀ c ∈ changes, (start d files').Keeps c :=
    fun hsame c hc => keeps_start fun f hf => hkept c hc f ((hsame f).1 hf)
  constructor
  · intro n c hc
    refine ⟨_, observe_of_kept (hkeeps fun f => Iff.rfl) hc, ?_⟩
    intro now
    refine ⟨fun p _ => exists_reported_iff hfiles _, fun r hr => ?_, fun htree f hf hhome l hl halters => ?_⟩
    · obtain ⟨k, -, hreport⟩ := List.mem_filterMap.1 hr
      exact ⟨Path.isPlain_iff.2 ⟨k, names_of_report? hfiles hreport⟩, exists_parent_of_report? hfiles hreport⟩
    · have htouched : l ∈ now.touched c := (htree.applyAll _).mem_touched halters
      exact (exists_reported_iff hfiles _).2 ⟨⟨l, htouched, hl⟩, covered_of_mem hf hl hhome⟩
  · intro files' hsame
    exact ⟨forall₂_watchedDirectories hfiles hsame,
      forall₂_observe (hkeeps fun f => Iff.rfl) (hkeeps hsame) (report?_same hfiles hsame)⟩

/-! ## Two directories -/

section TwoDirectories

/-- A disk with two empty directories. -/
def twoDirectories : Disk where
  entries := [(placeOf ["ws"], .directory), (placeOf ["etc"], .directory)]
  workingDirectory := []

theorem twoDirectories_isTree : twoDirectories.IsTree := by
  have hmade : twoDirectories = [Disk.Change.put (placeOf ["ws"]) .directory, .put (placeOf ["etc"]) .directory].foldl
      Disk.apply ⟨[], []⟩ := by rfl
  rw [hmade]
  exact Disk.IsTree.applyAll (Disk.isTree_of_no_entries rfl) _

/-- Files in both directories, and one whose directory is not there yet. -/
def listedFiles : List Path := [.ofText "/ws/.tdls.toml", .ofText "//etc/t.toml", .ofText "/none/.tdls.toml"]

/-- One file's name appears in another one's directory, a listed file is made together with its directory, the first
file goes again, and a listed file is made where its directory was. -/
def fileChanges : List Disk.Change :=
  [.put (placeOf ["etc", ".tdls.toml"]) (.file .empty), .put (placeOf ["none", ".tdls.toml"]) (.file .empty),
    .remove (placeOf ["etc", ".tdls.toml"]), .put (placeOf ["etc", "t.toml"]) (.file .empty)]

theorem fileChanges_reported :
    (∀ f ∈ listedFiles, f.IsPlain) ∧
      (∀ c ∈ fileChanges, ∀ f ∈ listedFiles, ∀ l, twoDirectories.home? f = some l → c.removes l = false) ∧
      (∃ seen, ((start twoDirectories listedFiles).observe twoDirectories fileChanges)[0]? = some seen ∧
        ∃ r ∈ seen, r.Same (.ofText "/etc/.tdls.toml")) ∧
      (∃ seen, ((start twoDirectories listedFiles).observe twoDirectories fileChanges)[1]? = some seen ∧
        ¬ ∃ r ∈ seen, r.Same (.ofText "/none/.tdls.toml")) ∧
      (∃ seen, ((start twoDirectories listedFiles).observe twoDirectories fileChanges)[2]? = some seen ∧
        ∃ r ∈ seen, r.Same (.ofText "/etc/.tdls.toml")) ∧
      ∃ seen, ((start twoDirectories listedFiles).observe twoDirectories fileChanges)[3]? = some seen ∧
        ∃ r ∈ seen, r.Same (.ofText "//etc/t.toml") := by
  have hfiles : ∀ f ∈ listedFiles, f.IsPlain := by decide +kernel
  have hkept : ∀ c ∈ fileChanges, ∀ f ∈ listedFiles, ∀ l, twoDirectories.home? f = some l → c.removes l = false := by
    have hall : ∀ c ∈ fileChanges, ∀ f ∈ listedFiles, (twoDirectories.home? f).all (fun l => !c.removes l) = true := by
      decide +kernel
    intro c hc f hf l hl
    have hkept := hall c hc f hf
    rw [hl] at hkept
    simpa using hkept
  have hcovered : Covered twoDirectories listedFiles (.ofText "/etc/.tdls.toml") := by
    refine ⟨⟨.ofText "//etc/t.toml", by decide +kernel, .ofText "//etc", .ofText "/etc", by decide +kernel,
      by decide +kernel, ?_, by decide +kernel⟩, .ofText "/ws/.tdls.toml", by decide +kernel, Name.ofText ".tdls.toml",
      by decide +kernel, by decide +kernel⟩
    show Path.sortKey _ = Path.sortKey _
    decide +kernel
  have hplain : (Path.ofText "/etc/.tdls.toml").IsPlain := by decide +kernel
  have hnames : (Path.ofText "/etc/.tdls.toml").Names (placeOf ["etc", ".tdls.toml"]) :=
    ⟨by decide +kernel, by decide +kernel⟩
  obtain ⟨made, hmade, hmadeIff, -⟩ := (reports_covered_changes hfiles twoDirectories hkept).1 0 _ rfl
  obtain ⟨late, hlate, hlateIff, -⟩ := (reports_covered_changes hfiles twoDirectories hkept).1 1 _ rfl
  obtain ⟨gone, hgone, hgoneIff, -⟩ := (reports_covered_changes hfiles twoDirectories hkept).1 2 _ rfl
  obtain ⟨listed, hlisted, -, -, hlistedTree⟩ := (reports_covered_changes hfiles twoDirectories hkept).1 3 _ rfl
  refine ⟨hfiles, hkept, ⟨made, hmade, (hmadeIff _ hplain).2 ⟨⟨_, by decide +kernel, hnames⟩, hcovered⟩⟩,
    ⟨late, hlate, ?_⟩, ⟨gone, hgone, (hgoneIff _ hplain).2 ⟨⟨_, by decide +kernel, hnames⟩, hcovered⟩⟩, listed, hlisted,
    hlistedTree twoDirectories_isTree _ (by decide +kernel) (by decide +kernel) (placeOf ["etc", "t.toml"])
      ⟨by decide +kernel, by decide +kernel⟩ (Or.inr ⟨_, rfl⟩)⟩
  intro hreported
  obtain ⟨-, ⟨⟨_, -, _, dir, -, hdir, -, hthere⟩, -⟩⟩ := (hlateIff (.ofText "/none/.tdls.toml") (by decide +kernel)).1
    hreported
  have hnone : (Path.ofText "/none/.tdls.toml").parent? = some (.ofText "/none") := by decide +kernel
  cases hnone.symm.trans hdir
  exact hthere (by decide +kernel)

end TwoDirectories

end Watcher

end DialogueScript
