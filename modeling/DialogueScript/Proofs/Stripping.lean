import Mathlib.Logic.Function.Iterate
import DialogueScript.Proofs.Line
import DialogueScript.Proofs.Pattern

/-!
# The comment pattern

A comment is what the pattern `\(([^)]*)\)` matches. Searched from the left, the pattern is tried at every opening
bracket in turn, but the first one decides: where it finds no closing bracket behind it, no later one does
(`search?_of_not_commented`), and where it finds one, there is a single way to match (`head?_ways_commentPattern`). So
the line without its comment is the line without the first match of the pattern (`stripComment_eq_eraseFirst`).

Only the first comment is taken out at a time. Taken out again and again, all of them go, and what is left are brackets
that stand the wrong way round (`exists_iterate_not_commented`).
-/

namespace DialogueScript

open Pattern

/-! ## The pattern -/

section Pattern

/-- The pattern of a comment, `\(([^)]*)\)`. Its one group is the text between the brackets. -/
def commentPattern : Pattern Unit := .exactly '(' ++ .group () (.many (· != ')')) ++ .exactly ')'

/-- The way in which a comment is matched. -/
def commentWay (body rest : List Char) : Way Unit := ⟨'(' :: (body ++ [')']), [((), body)], rest⟩

variable {line b s : List Char} {w : Way Unit}

theorem reads_commentPattern_iff {t : List Char} {gs : List (Unit × List Char)} :
    commentPattern.Reads t gs ↔ ∃ body, ')' ∉ body ∧ t = '(' :: (body ++ [')']) ∧ gs = [((), body)] := by
  constructor
  · intro h
    obtain ⟨_, _, _, _, hopened, hclosing, rfl, rfl⟩ := reads_append_iff.1 h
    obtain ⟨_, body, _, _, hopening, hgroup, rfl, rfl⟩ := reads_append_iff.1 hopened
    obtain ⟨_, hinner, rfl⟩ := reads_group_iff.1 hgroup
    obtain ⟨hbody, rfl⟩ := reads_many_iff.1 hinner
    obtain ⟨rfl, rfl⟩ := reads_exactly_iff.1 hopening
    obtain ⟨rfl, rfl⟩ := reads_exactly_iff.1 hclosing
    exact ⟨body, not_mem_iff.1 hbody, rfl, rfl⟩
  · rintro ⟨body, hbody, rfl, rfl⟩
    have hopening : (exactly '(' : Pattern Unit).Reads ['('] [] := reads_exactly_iff.2 ⟨rfl, rfl⟩
    have hgroup : (group () (many (· != ')'))).Reads body [((), body)] := .group (.many (not_mem_iff.2 hbody))
    have hclosing : (exactly ')' : Pattern Unit).Reads [')'] [] := reads_exactly_iff.2 ⟨rfl, rfl⟩
    exact (hopening.seq hgroup).seq hclosing

/-- The pattern matches at an opening bracket, up to the first closing bracket behind it. -/
theorem mem_ways_commentPattern_iff : w ∈ commentPattern.ways s ↔
    ∃ body rest, ')' ∉ body ∧ s = '(' :: (body ++ ')' :: rest) ∧ w = commentWay body rest := by
  rw [mem_ways_iff, reads_commentPattern_iff]
  constructor
  · rintro ⟨rfl, body, hbody, htaken, hgroups⟩
    obtain ⟨taken, groups, rest⟩ := w
    cases htaken
    cases hgroups
    exact ⟨body, rest, hbody, by simp, rfl⟩
  · rintro ⟨body, rest, hbody, rfl, rfl⟩
    exact ⟨by simp [commentWay], body, hbody, rfl, rfl⟩

/-- There is no other way: the body of a comment cannot pass a closing bracket. -/
theorem head?_ways_commentPattern (hb : ')' ∉ b) (y : List Char) :
    (commentPattern.ways ('(' :: (b ++ ')' :: y))).head? = some (commentWay b y) := by
  have hmem : commentWay b y ∈ commentPattern.ways ('(' :: (b ++ ')' :: y)) :=
    mem_ways_commentPattern_iff.2 ⟨b, y, hb, rfl, rfl⟩
  obtain ⟨w, ws, hways⟩ := List.exists_cons_of_ne_nil (List.ne_nil_of_mem hmem)
  have hfirst : w ∈ commentPattern.ways ('(' :: (b ++ ')' :: y)) := by
    rw [hways]
    exact List.mem_cons_self
  obtain ⟨body, rest, hbody, hs, rfl⟩ := mem_ways_commentPattern_iff.1 hfirst
  -- both bodies end at the first closing bracket
  have hcut : cut ')' (b ++ ')' :: y) = some (b, y) := cut_eq_some_iff.2 ⟨hb, rfl⟩
  rw [(List.cons.inj hs).2, cut_eq_some_iff.2 ⟨hbody, rfl⟩] at hcut
  cases hcut
  rw [hways]
  rfl

theorem search?_comment {x : List Char} (hx : '(' ∉ x) (hb : ')' ∉ b) (y : List Char) :
    commentPattern.search? (x ++ '(' :: (b ++ ')' :: y)) = some (x, commentWay b y) := by
  have hhere : commentPattern.search? ('(' :: (b ++ ')' :: y)) = some ([], commentWay b y) :=
    search?_of_head? (head?_ways_commentPattern hb y)
  rw [search?_append, hhere]
  · simp
  rintro a c rest rfl
  rw [List.eq_nil_iff_forall_not_mem]
  intro w hw
  obtain ⟨_, _, _, hs, _⟩ := mem_ways_commentPattern_iff.1 hw
  exact hx (by simp [(List.cons.inj hs).1])

theorem search?_of_not_commented (h : ¬ Commented line) : commentPattern.search? line = none := by
  have hnowhere : ∀ a t, line = a ++ t → commentPattern.ways t = [] := by
    rintro a t rfl
    rw [List.eq_nil_iff_forall_not_mem]
    intro w hw
    obtain ⟨body, rest, -, rfl, -⟩ := mem_ways_commentPattern_iff.1 hw
    exact h ⟨a, body, rest, rfl⟩
  have hsearch : commentPattern.search? (line ++ []) = _ := search?_append fun a c b hline =>
    hnowhere a (c :: (b ++ [])) (by rw [List.append_nil, hline])
  rw [List.append_nil] at hsearch
  rw [hsearch, search?, hnowhere line [] (by rw [List.append_nil])]
  rfl

/-- **A comment is the first match of its pattern.** -/
theorem stripComment_eq_eraseFirst (line : List Char) : stripComment line = commentPattern.eraseFirst line := by
  unfold eraseFirst
  by_cases h : Commented line
  · obtain ⟨x, b, y, hx, hb, rfl⟩ := h.exists_first
    rw [stripComment_comment hx hb, search?_comment hx hb]
    rfl
  · rw [stripComment_of_not_commented h, search?_of_not_commented h]

end Pattern

/-! ## Stripping again and again -/

section Repeated

theorem length_stripComment_lt {line : List Char} (h : Commented line) :
    (stripComment line).length < line.length := by
  obtain ⟨x, b, y, hx, hb, rfl⟩ := h.exists_first
  rw [stripComment_comment hx hb]
  simp only [List.length_append, List.length_cons]
  omega

/-- Each stripping shortens the line until nothing is left to strip. The induction is on the length of the line. -/
theorem exists_iterate_not_commented (line : List Char) : ∃ n, ¬ Commented (stripComment^[n] line) ∧
    ∀ k < n, Commented (stripComment^[k] line) ∧
      (stripComment^[k + 1] line).length < (stripComment^[k] line).length := by
  induction hlength : line.length using Nat.strong_induction_on generalizing line with
  | _ length ih =>
    by_cases h : Commented line
    · have hshorter := length_stripComment_lt h
      obtain ⟨n, hend, hbefore⟩ := ih _ (hlength ▸ hshorter) (stripComment line) rfl
      refine ⟨n + 1, hend, fun k hk => ?_⟩
      cases k with
      | zero => exact ⟨h, hshorter⟩
      | succ k => exact hbefore k (Nat.lt_of_succ_lt_succ hk)
    · exact ⟨0, h, fun k hk => absurd hk (Nat.not_lt_zero k)⟩

end Repeated

/-- **What stripping takes out of a line.** It is the first match of the comment pattern: nothing at all exactly when no
opening bracket has a closing one behind it, and otherwise the text from the first opening bracket to the first closing
bracket after it, whatever stands between. All else stays. Repeated, it shortens the line until no opening bracket has a
closing one behind it. -/
theorem stripComment_takes_first_match (line : List Char) :
    stripComment line = commentPattern.eraseFirst line ∧ (stripComment line = line ↔ ¬ Commented line) ∧
      (Commented line → ∃ x b y, '(' ∉ x ∧ ')' ∉ b ∧ line = x ++ '(' :: (b ++ ')' :: y) ∧
        stripComment line = x ++ y) ∧
      (∀ x b y, '(' ∉ x → ')' ∉ b → stripComment (x ++ '(' :: (b ++ ')' :: y)) = x ++ y) ∧
      ∃ n, ¬ Commented (stripComment^[n] line) ∧ ∀ k < n, Commented (stripComment^[k] line) ∧
        (stripComment^[k + 1] line).length < (stripComment^[k] line).length := by
  have hsame : stripComment line = line ↔ ¬ Commented line := by rw [commented_iff, not_not]
  refine ⟨stripComment_eq_eraseFirst line, hsame, fun hcomment => ?_, fun x b y hx hb => stripComment_comment hx hb y,
    exists_iterate_not_commented line⟩
  obtain ⟨x, b, y, hx, hb, rfl⟩ := hcomment.exists_first
  exact ⟨x, b, y, hx, hb, rfl, stripComment_comment hx hb y⟩

/-- A closing bracket in front, an opening bracket and a line break inside, and a second comment behind. -/
theorem nestedAside_takes_first_match :
    stripComment (")- A ".toList ++ '(' :: ("b (\n".toList ++ ')' :: ") (c): d".toList)) =
        ")- A ) (c): d".toList ∧
      stripComment ") no (".toList = ") no (".toList := by
  have hno : ¬ Commented ") no (".toList := by decide
  exact ⟨(stripComment_takes_first_match []).2.2.2.1 ")- A ".toList "b (\n".toList ") (c): d".toList (by decide)
    (by decide), (stripComment_takes_first_match ") no (".toList).2.1.2 hno⟩

end DialogueScript
