import Mathlib.Data.List.Basic
import DialogueScript.Server.Documents

/-!
# Documents as a map

The open documents are a list, but nothing outside looks at it except by URI: `get?_insert` and `get?_erase` are the
laws of a map. `Distinct` says that no URI has two entries, which every change keeps (`Distinct.insert`,
`Distinct.erase`).
-/

namespace DialogueScript.Documents

variable {uri u : Uri} {document : Document} {docs : Documents}

theorem get?_cons (d : Uri × Document) (docs : Documents) :
    get? u (d :: docs) = if u = d.1 then some d.2 else get? u docs := by
  by_cases h : u = d.1
  · simp [get?, h]
  · have h' : d.1 ≠ u := Ne.symm h
    simp [get?, h, h']

theorem get?_eq_none_iff : get? u docs = none ↔ ∀ d ∈ docs, d.1 ≠ u := by
  simp [get?]

theorem get?_erase (uri u : Uri) (docs : Documents) :
    get? u (erase uri docs) = if u = uri then none else get? u docs := by
  induction docs with
  | nil => simp [get?, erase]
  | cons d docs ih =>
    by_cases hd : d.1 = uri
    · have hskip : erase uri (d :: docs) = erase uri docs := by simp [erase, hd]
      rw [hskip, ih, get?_cons, hd]
      by_cases hu : u = uri
      · rw [if_pos hu, if_pos hu]
      · rw [if_neg hu, if_neg hu, if_neg hu]
    · have hkeep : erase uri (d :: docs) = d :: erase uri docs := by simp [erase, hd]
      rw [hkeep, get?_cons, get?_cons, ih]
      by_cases hu : u = d.1
      · rw [if_pos hu, if_pos hu, if_neg (by rw [hu]; exact hd)]
      · rw [if_neg hu, if_neg hu]

theorem get?_place (hnew : get? uri docs = none) :
    get? u (place uri document docs) = if u = uri then some document else get? u docs := by
  induction docs with
  | nil => rw [place, get?_cons]
  | cons d docs ih =>
    have hd : uri ≠ d.1 := Ne.symm (get?_eq_none_iff.1 hnew d List.mem_cons_self)
    rw [get?_cons, if_neg hd] at hnew
    unfold place
    split
    · rw [get?_cons]
    · rw [get?_cons, get?_cons, ih hnew]
      by_cases hu : u = uri
      · rw [hu, if_neg hd, if_pos rfl, if_pos rfl]
      · rw [if_neg hu, if_neg hu]

theorem get?_insert (uri u : Uri) (document : Document) (docs : Documents) :
    get? u (insert uri document docs) = if u = uri then some document else get? u docs := by
  unfold insert
  rw [get?_place (by rw [get?_erase, if_pos rfl]), get?_erase]
  by_cases hu : u = uri
  · rw [if_pos hu, if_pos hu]
  · rw [if_neg hu, if_neg hu, if_neg hu]

/-! ## One entry for each URI -/

/-- No URI has two entries. -/
def Distinct (docs : Documents) : Prop := (docs.map Prod.fst).Nodup

theorem place_perm (uri : Uri) (document : Document) : ∀ docs : Documents,
    (place uri document docs).Perm ((uri, document) :: docs)
  | [] => .refl _
  | d :: docs => by
    unfold place
    split
    · exact .refl _
    · exact ((place_perm uri document docs).cons d).trans (.swap (uri, document) d docs)

theorem Distinct.get?_of_mem (h : Distinct docs) {d : Uri × Document} (hd : d ∈ docs) : get? d.1 docs = some d.2 := by
  induction docs with
  | nil => cases hd
  | cons e docs ih =>
    obtain ⟨he, hdocs⟩ := List.nodup_cons.1 h
    rw [get?_cons]
    rcases List.mem_cons.1 hd with rfl | hd
    · rw [if_pos rfl]
    · have hne : d.1 ≠ e.1 := fun heq => he (heq ▸ List.mem_map_of_mem hd)
      rw [if_neg hne, ih hdocs hd]

theorem Distinct.erase (h : Distinct docs) (uri : Uri) : Distinct (docs.erase uri) :=
  h.sublist (List.filter_sublist.map Prod.fst)

theorem Distinct.insert (h : Distinct docs) (uri : Uri) (document : Document) :
    Distinct (docs.insert uri document) := by
  unfold Distinct Documents.insert
  rw [((place_perm uri document (Documents.erase uri docs)).map Prod.fst).nodup_iff, List.map_cons, List.nodup_cons]
  refine ⟨?_, h.erase uri⟩
  intro hmem
  obtain ⟨d, hd, he⟩ := List.mem_map.1 hmem
  exact get?_eq_none_iff.1 (by rw [get?_erase, if_pos rfl]) d hd he

end DialogueScript.Documents
