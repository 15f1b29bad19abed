import DialogueScript.Proofs.Padding

/-!
# Joined scripts

Two scripts joined by a line feed have the lines of both (`lines_append`), so their problems are those of the first
script and then those of the second, with the lines of the second counted on (`problems_append`). The cap is used up
from the front: what the first script leaves of it is all that the second one has.

An index tells which of the two scripts a report is about (`index_of_mem_problemsFrom`). So the reports on the first
script never depend on the second, and the second one is touched by the first through two numbers only, how many lines
it has and how much of the cap it takes (`validate_joined_scripts`).
-/

namespace DialogueScript

variable {index : Nat} {ls ms : List (List Char)} {d : Diagnostic}

/-! ## Lines and problems -/

/-- A line feed ends a line on both sides; a carriage return in front of it is dropped either way. -/
theorem lines_append (first second : List Char) : lines (first ++ '\n' :: second) = lines first ++ lines second := by
  unfold lines
  rw [splitOn_append, List.map_append]

theorem problemsFrom_append (index : Nat) (ls ms : List (List Char)) :
    problemsFrom index (ls ++ ms) = problemsFrom index ls ++ problemsFrom (index + ls.length) ms := by
  induction ls generalizing index with
  | nil => rfl
  | cons line ls ih =>
    have hlength : index + (line :: ls).length = index + 1 + ls.length := by
      rw [List.length_cons]
      omega
    rw [List.cons_append, problemsFrom_cons, problemsFrom_cons, ih, hlength, List.append_assoc]

theorem problems_append (first second : List Char) : problems (first ++ '\n' :: second) =
    problems first ++ problemsFrom (lines first).length (lines second) := by
  rw [problems, problems, lines_append, problemsFrom_append, Nat.zero_add]

/-- Reports carry the index of one of the lines they are about. -/
theorem index_of_mem_problemsFrom (h : d ∈ problemsFrom index ls) : index ≤ d.index ∧ d.index < index + ls.length := by
  induction ls generalizing index with
  | nil => cases h
  | cons line ls ih =>
    rw [problemsFrom_cons] at h
    rw [List.length_cons]
    rcases List.mem_append.1 h with h | h
    · have hindex := index_of_mem_diagnose h
      omega
    · have hrest := ih h
      omega

/-! ## The cap -/

theorem validate_append (first second : List Char) (cap : Nat) : validate (first ++ '\n' :: second) cap =
    validate first cap ++
      (problemsFrom (lines first).length (lines second)).take (cap - (validate first cap).length) := by
  have hused : cap - (validate first cap).length = cap - (problems first).length := by
    rw [validate_eq_take, List.length_take]
    omega
  rw [hused, validate_eq_take, validate_eq_take, problems_append, List.take_append]

theorem index_of_mem_validate {text : List Char} {cap : Nat} (h : d ∈ validate text cap) :
    d.index < (lines text).length := by
  rw [validate_eq_take, problems] at h
  have hindex := index_of_mem_problemsFrom (List.mem_of_mem_take h)
  omega

/-- **Joined scripts are validated one after the other.** The reports are those on the first script and then, as far as
the cap is not used up, the problems of the lines of the second, counted on from the first. The reports on lines of the
first script are those it has alone, and of the first script nothing but the number of its lines and the number of its
reports matters to those on lines of the second. -/
theorem validate_joined_scripts (first second : List Char) (cap : Nat) :
    let count := (lines first).length
    let used := (validate first cap).length
    let joined := validate (first ++ '\n' :: second) cap
    let later := ((lines second).mapIdx fun j line => diagnose line (count + j)).flatten
    joined = validate first cap ++ later.take (cap - used) ∧
      joined.filter (fun d => d.index < count) = validate first cap ∧
      joined.filter (fun d => count ≤ d.index) = later.take (cap - used) := by
  intro count used joined later
  have hjoined : joined = validate first cap ++ later.take (cap - used) := validate_append first second cap
  have hfirst : ∀ d ∈ validate first cap, d.index < count := fun d hd => index_of_mem_validate hd
  have hlater : ∀ d ∈ later.take (cap - used), count ≤ d.index := by
    intro d hd
    exact (index_of_mem_problemsFrom (List.mem_of_mem_take hd)).1
  refine ⟨hjoined, ?_, ?_⟩
  · have hall : (validate first cap).filter (fun d => d.index < count) = validate first cap := by
      rw [List.filter_eq_self]
      simpa using hfirst
    have hnone : (later.take (cap - used)).filter (fun d => d.index < count) = [] := by
      rw [List.filter_eq_nil_iff]
      simpa using hlater
    rw [hjoined, List.filter_append, hall, hnone, List.append_nil]
  · have hnone : (validate first cap).filter (fun d => count ≤ d.index) = [] := by
      rw [List.filter_eq_nil_iff]
      simpa using hfirst
    have hall : (later.take (cap - used)).filter (fun d => count ≤ d.index) = later.take (cap - used) := by
      rw [List.filter_eq_self]
      simpa using hlater
    rw [hjoined, List.filter_append, hnone, hall, List.nil_append]

-- the first script ends in a carriage return and uses up one report of two
example : validate ("- one\r".toList ++ '\n' :: "\n- two\n- three".toList) 2 =
    [missingColonAt 0, missingColonAt 2] := by
  decide

end DialogueScript
