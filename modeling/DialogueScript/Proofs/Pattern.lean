import Mathlib.Data.List.TakeWhile

/-!
# Patterns and backtracking

A `Pattern` is a regular expression of the kind that a line is searched with: classes of characters, greedy quantifiers,
optional parts and named groups. `Pattern.ways` lists all ways in which a pattern matches at the start of a text, in the
order in which backtracking tries them: the longer run of a class before the shorter ones, the optional part before its
absence. The match is the first way at the leftmost position that has one (`Pattern.search?`).

`Pattern.Reads` says what a pattern matches without any order. Backtracking leaves nothing out and makes nothing up
(`mem_ways_iff`); which of the ways comes first is what the order adds (`head?_runs`, `head?_ways_append`). A search
passes over the positions at which there is no way (`search?_append`).
-/

namespace DialogueScript

/-- A pattern with groups named by `ι`. -/
inductive Pattern (ι : Type) where
  /-- One character of a class. -/
  | one (p : Char → Bool)
  /-- Any number of characters of a class, as many as possible. -/
  | many (p : Char → Bool)
  /-- One pattern behind the other. -/
  | seq (first second : Pattern ι)
  /-- A pattern or nothing, the pattern if possible. -/
  | maybe (inner : Pattern ι)
  /-- A pattern that is captured. -/
  | group (name : ι) (inner : Pattern ι)

/-- A way in which a pattern matches at the start of a text. -/
structure Way (ι : Type) where
  /-- The text that is matched. -/
  taken : List Char
  /-- The groups that took part, with the texts they have captured. -/
  groups : List (ι × List Char)
  /-- The text behind the match. -/
  rest : List Char

/-- One way and then another behind it. -/
def Way.andThen {ι : Type} (w v : Way ι) : Way ι := ⟨w.taken ++ v.taken, w.groups ++ v.groups, v.rest⟩

namespace Pattern

variable {ι : Type}

instance : Append (Pattern ι) := ⟨seq⟩

/-- A single character. -/
def exactly (c : Char) : Pattern ι := .one (· == c)

/-- Characters of a class, at least one and as many as possible. -/
def atLeastOne (p : Char → Bool) : Pattern ι := .one p ++ .many p

/-- The runs of a class at the start of a text, the longest one first, each with the text behind it. -/
def runs (p : Char → Bool) : List Char → List (List Char × List Char)
  | [] => [([], [])]
  | c :: s => (if p c then (runs p s).map fun (run, rest) => (c :: run, rest) else []) ++ [([], c :: s)]

/-- The ways in which a pattern matches at the start of a text, in the order in which they are tried. -/
def ways : Pattern ι → List Char → List (Way ι)
  | .one _, [] => []
  | .one p, c :: s => if p c then [⟨[c], [], s⟩] else []
  | .many p, s => (runs p s).map fun (run, rest) => ⟨run, [], rest⟩
  | .seq first second, s => (first.ways s).flatMap fun w => (second.ways w.rest).map w.andThen
  | .maybe inner, s => inner.ways s ++ [⟨[], [], s⟩]
  | .group name inner, s => (inner.ways s).map fun w => { w with groups := (name, w.taken) :: w.groups }

/-- Searches a text from the left: the first way at the first position that has one, and the text in front of it. -/
def search? (p : Pattern ι) : List Char → Option (List Char × Way ι)
  | [] => (p.ways []).head?.map fun w => ([], w)
  | c :: s =>
    match (p.ways (c :: s)).head? with
    | some w => some ([], w)
    | none => (p.search? s).map fun (before, w) => (c :: before, w)

/-! ## What a pattern reads -/

/-- A pattern matches a text and captures groups, in whatever order its ways are tried. -/
inductive Reads : Pattern ι → List Char → List (ι × List Char) → Prop where
  | one {p : Char → Bool} {c : Char} : p c = true → Reads (.one p) [c] []
  | many {p : Char → Bool} {run : List Char} : (∀ c ∈ run, p c = true) → Reads (.many p) run []
  | seq {f g : Pattern ι} {a b : List Char} {as bs : List (ι × List Char)} :
      Reads f a as → Reads g b bs → Reads (.seq f g) (a ++ b) (as ++ bs)
  | skip {f : Pattern ι} : Reads (.maybe f) [] []
  | take {f : Pattern ι} {a : List Char} {as : List (ι × List Char)} : Reads f a as → Reads (.maybe f) a as
  | group {name : ι} {f : Pattern ι} {a : List Char} {as : List (ι × List Char)} :
      Reads f a as → Reads (.group name f) a ((name, a) :: as)

section Reads

variable {f g : Pattern ι} {p : Char → Bool} {t : List Char} {gs : List (ι × List Char)} {name : ι}

theorem reads_exactly_iff {c : Char} : (exactly c : Pattern ι).Reads t gs ↔ t = [c] ∧ gs = [] := by
  constructor
  · intro h
    cases h with
    | one hc => simpa using hc
  · rintro ⟨rfl, rfl⟩
    exact .one (by simp)

theorem reads_many_iff : (many p : Pattern ι).Reads t gs ↔ (∀ c ∈ t, p c = true) ∧ gs = [] := by
  constructor
  · intro h
    cases h with
    | many hrun => exact ⟨hrun, rfl⟩
  · rintro ⟨hrun, rfl⟩
    exact .many hrun

/-- The class of all characters but one. -/
theorem not_mem_iff {c : Char} : (∀ d ∈ t, (d != c) = true) ↔ c ∉ t := by
  simp only [bne_iff_ne, ne_eq]
  exact ⟨fun h hc => h c hc rfl, fun h d hd hdc => h (hdc ▸ hd)⟩

theorem reads_append_iff : (f ++ g).Reads t gs ↔
    ∃ a b as bs, f.Reads a as ∧ g.Reads b bs ∧ t = a ++ b ∧ gs = as ++ bs := by
  constructor
  · intro h
    cases h with
    | seq hf hg => exact ⟨_, _, _, _, hf, hg, rfl, rfl⟩
  · rintro ⟨a, b, as, bs, hf, hg, rfl, rfl⟩
    exact .seq hf hg

theorem reads_maybe_iff : (maybe f).Reads t gs ↔ f.Reads t gs ∨ t = [] ∧ gs = [] := by
  constructor
  · intro h
    cases h with
    | skip => exact Or.inr ⟨rfl, rfl⟩
    | take hf => exact Or.inl hf
  · rintro (hf | ⟨rfl, rfl⟩)
    · exact .take hf
    · exact .skip

theorem reads_group_iff : (group name f).Reads t gs ↔ ∃ as, f.Reads t as ∧ gs = (name, t) :: as := by
  constructor
  · intro h
    cases h with
    | group hf => exact ⟨_, hf, rfl⟩
  · rintro ⟨as, hf, rfl⟩
    exact .group hf

theorem reads_atLeastOne_iff : (atLeastOne p : Pattern ι).Reads t gs ↔ t ≠ [] ∧ (∀ c ∈ t, p c = true) ∧ gs = [] := by
  constructor
  · intro h
    obtain ⟨a, b, as, bs, ha, hb, rfl, rfl⟩ := reads_append_iff.1 h
    cases ha with
    | one hc =>
      obtain ⟨hrun, rfl⟩ := reads_many_iff.1 hb
      refine ⟨by simp, ?_, rfl⟩
      intro d hd
      rcases List.mem_cons.1 hd with rfl | hd
      · exact hc
      · exact hrun d hd
  · rintro ⟨hne, hrun, rfl⟩
    obtain ⟨c, s, rfl⟩ := List.exists_cons_of_ne_nil hne
    refine reads_append_iff.2 ⟨[c], s, [], [], .one (hrun c List.mem_cons_self), .many ?_, rfl, rfl⟩
    exact fun d hd => hrun d (List.mem_cons_of_mem c hd)

end Reads

/-! ## Backtracking finds every reading -/

section Ways

variable {f g : Pattern ι} {p : Char → Bool} {s : List Char} {w v : Way ι}

theorem mem_runs_iff {run rest : List Char} : (run, rest) ∈ runs p s ↔ s = run ++ rest ∧ ∀ c ∈ run, p c = true := by
  induction s generalizing run with
  | nil =>
    unfold runs
    rw [List.mem_singleton]
    constructor
    · intro h
      cases h
      exact ⟨rfl, List.forall_mem_nil _⟩
    · rintro ⟨hs, -⟩
      obtain ⟨rfl, rfl⟩ := List.append_eq_nil_iff.1 hs.symm
      rfl
  | cons c s ih =>
    unfold runs
    rw [List.mem_append, List.mem_singleton]
    constructor
    · rintro (hlonger | hnone)
      · by_cases hc : p c = true
        · rw [if_pos hc] at hlonger
          obtain ⟨⟨run, rest⟩, hrun, heq⟩ := List.mem_map.1 hlonger
          cases heq
          obtain ⟨rfl, hclass⟩ := ih.1 hrun
          exact ⟨rfl, List.forall_mem_cons.2 ⟨hc, hclass⟩⟩
        · rw [if_neg hc] at hlonger
          cases hlonger
      · cases hnone
        exact ⟨rfl, List.forall_mem_nil _⟩
    · rintro ⟨hs, hclass⟩
      cases run with
      | nil =>
        right
        rw [hs]
        rfl
      | cons d run =>
        obtain ⟨rfl, rfl⟩ := List.cons.inj hs
        obtain ⟨hc, hrun⟩ := List.forall_mem_cons.1 hclass
        left
        rw [if_pos hc]
        exact List.mem_map.2 ⟨(run, rest), ih.2 ⟨rfl, hrun⟩, rfl⟩

/-- **Backtracking is complete and sound**: the ways are the readings of what a text begins with. -/
theorem mem_ways_iff (f : Pattern ι) :
    w ∈ f.ways s ↔ s = w.taken ++ w.rest ∧ f.Reads w.taken w.groups := by
  induction f generalizing s w with
  | one p =>
    constructor
    · intro h
      cases s with
      | nil => cases h
      | cons c s =>
        unfold ways at h
        split at h
        · obtain rfl := List.mem_singleton.1 h
          exact ⟨rfl, .one ‹_›⟩
        · cases h
    · rintro ⟨rfl, hreads⟩
      obtain ⟨taken, groups, rest⟩ := w
      cases hreads with
      | one hc => simp [ways, hc]
  | many p =>
    unfold ways
    rw [List.mem_map, reads_many_iff]
    constructor
    · rintro ⟨⟨run, rest⟩, hrun, rfl⟩
      obtain ⟨hs, hclass⟩ := mem_runs_iff.1 hrun
      exact ⟨hs, hclass, rfl⟩
    · rintro ⟨hs, hclass, hgroups⟩
      refine ⟨(w.taken, w.rest), mem_runs_iff.2 ⟨hs, hclass⟩, ?_⟩
      obtain ⟨taken, groups, rest⟩ := w
      rw [show groups = [] from hgroups]
  | seq f g ihf ihg =>
    unfold ways
    simp only [List.mem_flatMap, List.mem_map, ihf, ihg]
    constructor
    · rintro ⟨w, ⟨hs, hf⟩, v, ⟨hrest, hg⟩, rfl⟩
      refine ⟨?_, .seq hf hg⟩
      rw [hs, hrest]
      exact (List.append_assoc ..).symm
    · rintro ⟨hs, hreads⟩
      obtain ⟨taken, groups, rest⟩ := w
      cases hreads with
      | @seq _ _ a b as bs hf hg =>
        refine ⟨⟨a, as, b ++ rest⟩, ⟨?_, hf⟩, ⟨b, bs, rest⟩, ⟨rfl, hg⟩, rfl⟩
        rw [hs]
        exact List.append_assoc ..
  | maybe f ih =>
    unfold ways
    rw [List.mem_append, List.mem_singleton, ih, reads_maybe_iff]
    constructor
    · rintro (⟨hs, hf⟩ | rfl)
      · exact ⟨hs, Or.inl hf⟩
      · exact ⟨rfl, Or.inr ⟨rfl, rfl⟩⟩
    · rintro ⟨hs, hf | ⟨htaken, hgroups⟩⟩
      · exact Or.inl ⟨hs, hf⟩
      · obtain ⟨taken, groups, rest⟩ := w
        simp only at htaken hgroups hs
        subst htaken hgroups hs
        exact Or.inr rfl
  | group name f ih =>
    unfold ways
    simp only [List.mem_map, ih]
    constructor
    · rintro ⟨v, ⟨hs, hf⟩, rfl⟩
      exact ⟨hs, .group hf⟩
    · rintro ⟨hs, hreads⟩
      obtain ⟨as, hf, hgroups⟩ := reads_group_iff.1 hreads
      refine ⟨⟨w.taken, as, w.rest⟩, ⟨hs, hf⟩, ?_⟩
      rw [← hgroups]

/-! ## The first way -/

/-- Of the runs of a class the longest one is tried first. -/
theorem head?_runs (p : Char → Bool) (s : List Char) :
    (runs p s).head? = some (s.takeWhile p, s.dropWhile p) := by
  induction s with
  | nil => rfl
  | cons c s ih =>
    unfold runs
    by_cases hc : p c = true
    · rw [if_pos hc, List.head?_append, List.head?_map, ih]
      rw [List.takeWhile_cons_of_pos hc, List.dropWhile_cons_of_pos hc]
      rfl
    · rw [if_neg hc, List.takeWhile_cons_of_neg hc, List.dropWhile_cons_of_neg hc]
      rfl

theorem head?_ways_many (p : Char → Bool) (s : List Char) :
    ((many p : Pattern ι).ways s).head? = some ⟨s.takeWhile p, [], s.dropWhile p⟩ := by
  unfold ways
  rw [List.head?_map, head?_runs]
  rfl

/-- The first way of one pattern and the first way of the other behind it make the first way of both. -/
theorem head?_ways_append (hf : (f.ways s).head? = some w) (hg : (g.ways w.rest).head? = some v) :
    ((f ++ g).ways s).head? = some (w.andThen v) := by
  obtain ⟨ws, hws⟩ := List.head?_eq_some_iff.1 hf
  obtain ⟨vs, hvs⟩ := List.head?_eq_some_iff.1 hg
  show ((f.ways s).flatMap fun w => (g.ways w.rest).map w.andThen).head? = some (w.andThen v)
  rw [hws, List.flatMap_cons, hvs]
  rfl

theorem head?_ways_maybe (h : (f.ways s).head? = some w) : ((maybe f).ways s).head? = some w := by
  unfold ways
  rw [List.head?_append, h]
  rfl

theorem ways_append_eq_nil (hf : f.ways s = []) (g : Pattern ι) : (f ++ g).ways s = [] := by
  show ((f.ways s).flatMap fun w => (g.ways w.rest).map w.andThen) = []
  rw [hf, List.flatMap_nil]

end Ways

/-! ## Searching -/

section Searching

variable {p : Pattern ι} {x s : List Char} {w : Way ι}

theorem search?_of_head? (h : (p.ways s).head? = some w) : p.search? s = some ([], w) := by
  cases s with
  | nil => simp only [search?, h, Option.map_some]
  | cons c s => simp only [search?, h]

/-- Positions at which a pattern does not match are passed over. -/
theorem search?_append (h : ∀ a c b, x = a ++ c :: b → p.ways (c :: (b ++ s)) = []) :
    p.search? (x ++ s) = (p.search? s).map fun (before, w) => (x ++ before, w) := by
  induction x with
  | nil => simp
  | cons c x ih =>
    have hrest := ih fun a d b hx => h (c :: a) d b (by rw [hx, List.cons_append])
    have hhere : p.ways (c :: (x ++ s)) = [] := h [] c x rfl
    rw [List.cons_append, search?, hhere, List.head?_nil, hrest, Option.map_map]
    rfl

/-- The text without the first match of a pattern. -/
def eraseFirst (p : Pattern ι) (text : List Char) : List Char :=
  match p.search? text with
  | none => text
  | some (before, w) => before ++ w.rest

end Searching

end Pattern

end DialogueScript
