import DialogueScript.Proofs.Grammar
import DialogueScript.Proofs.Pattern

/-!
# The dialogue pattern needs no backtracking

Searched by backtracking, the dialogue pattern tries every shorter run of blanks, every shorter name, every body cut
short and every part left out before it gives up a dash. `Dialogue.find?` takes each of these as far as it goes and
never gives anything back.

What the pattern reads from its dash to its colon are the headers (`exists_header_of_reads`, `Header.reads`), and the
scan reads every header that stands behind a dash, with parts that do not depend on how the pattern came to it. So no
later try can succeed where the scan fails, and none can change a part (`first_way_eq`); behind the colon the first try
always succeeds (`head?_speech`). Hence both find the same dialogues (`backtracking_agrees_with_scan`).
-/

namespace DialogueScript

/-- The names of the parts that a search captures. -/
inductive Part where
  | tag
  | expression
  | character
  | portrait
  | text
  deriving DecidableEq

namespace Dialogue

open Pattern

/-! ## The pattern -/

/-- A pattern and any number of blanks behind it. -/
def spaced (inner : Pattern Part) : Pattern Part := inner ++ .many isBlank

/-- A class of characters that is captured unless there are none. -/
def word (name : Part) (p : Char → Bool) : Pattern Part := .maybe (.group name (.atLeastOne p))

/-- A pattern between brackets, which may both be missing. -/
def between (opening closing : Char) (inner : Pattern Part) : Pattern Part :=
  .maybe (.exactly opening ++ inner ++ .exactly closing)

/-- A dialogue from its dash to its colon. -/
def headerPattern : Pattern Part :=
  spaced (.exactly '-') ++
    spaced (between '<' '>' (word .tag (· != '>'))) ++
    spaced (between '{' '}' (word .expression (· != '}'))) ++
    spaced (word .character isNameChar) ++
    spaced (between '[' ']' (.group .portrait (.many (· != ']')))) ++
    .exactly ':'

/-- What is said, behind its blanks. -/
def speechPattern : Pattern Part := .many isBlank ++ word .text fun _ => true

/-- The pattern of a dialogue. Written in the usual notation, its six pieces are `-\s*`, `(?:<(?P<tag>[^>]+)?>)?\s*`,
`(?:\{(?P<expression>[^}]+)?\})?\s*`, `(?P<character>[0-9A-Za-z_\x{4e00}-\x{9fa5}]+)?\s*`,
`(?:\[(?P<portrait>[^\]]*)\])?\s*` and `:\s*(?P<text>[\s\S]+)?`. -/
def pattern : Pattern Part := headerPattern ++ speechPattern

/-- The dialogue that groups make. -/
def ofGroups (groups : List (Part × List Char)) : Dialogue where
  tag := groups.lookup .tag
  expression := groups.lookup .expression
  character := groups.lookup .character
  portrait := groups.lookup .portrait
  text := groups.lookup .text

/-! ## What the parts of the pattern read -/

/-- The group that a part is captured in, if it is there. -/
def captured (name : Part) (part : Option (List Char)) : List (Part × List Char) :=
  part.toList.map fun body => (name, body)

section Parts

variable {name : Part} {p : Char → Bool} {opening closing : Char} {inner : Pattern Part} {t : List Char}
  {gs : List (Part × List Char)}

theorem reads_word_iff : (word name p).Reads t gs ↔
    (∀ c ∈ t, p c = true) ∧ gs = captured name (if t = [] then none else some t) := by
  unfold word
  simp only [reads_maybe_iff, reads_group_iff, reads_atLeastOne_iff]
  constructor
  · rintro (⟨_, ⟨hne, hclass, rfl⟩, rfl⟩ | ⟨rfl, rfl⟩)
    · refine ⟨hclass, ?_⟩
      rw [if_neg hne]
      rfl
    · exact ⟨List.forall_mem_nil _, rfl⟩
  · rintro ⟨hclass, rfl⟩
    by_cases ht : t = []
    · right
      rw [if_pos ht]
      exact ⟨ht, rfl⟩
    · left
      rw [if_neg ht]
      exact ⟨[], ⟨ht, hclass, rfl⟩, rfl⟩

theorem reads_between_iff : (between opening closing inner).Reads t gs ↔
    (∃ body, inner.Reads body gs ∧ t = renderPart [opening] [closing] (some body)) ∨ t = [] ∧ gs = [] := by
  unfold between
  rw [reads_maybe_iff]
  refine or_congr_left ?_
  constructor
  · intro h
    obtain ⟨_, _, _, _, hopened, hclosing, rfl, rfl⟩ := reads_append_iff.1 h
    obtain ⟨_, body, _, gs, hopening, hbody, rfl, rfl⟩ := reads_append_iff.1 hopened
    obtain ⟨rfl, rfl⟩ := reads_exactly_iff.1 hopening
    obtain ⟨rfl, rfl⟩ := reads_exactly_iff.1 hclosing
    rw [List.nil_append, List.append_nil]
    exact ⟨body, hbody, rfl⟩
  · rintro ⟨body, hbody, rfl⟩
    have hopened : (exactly opening ++ inner).Reads ([opening] ++ body) gs :=
      reads_append_iff.2 ⟨_, _, [], gs, reads_exactly_iff.2 ⟨rfl, rfl⟩, hbody, rfl, rfl⟩
    exact reads_append_iff.2 ⟨_, _, gs, [], hopened, reads_exactly_iff.2 ⟨rfl, rfl⟩, rfl, (List.append_nil gs).symm⟩

theorem filter_some_ne_nil (body : List Char) :
    (some body).filter (· ≠ []) = if body = [] then none else some body := by
  cases body <;> rfl

/-- An optional part whose empty body counts as a missing one. -/
theorem reads_between_word_iff : (between opening closing (word name (· != closing))).Reads t gs ↔
    ∃ part : Option (List Char), (∀ body ∈ part, closing ∉ body) ∧ t = renderPart [opening] [closing] part ∧
      gs = captured name (part.filter (· ≠ [])) := by
  rw [reads_between_iff]
  simp only [reads_word_iff, not_mem_iff]
  constructor
  · rintro (⟨body, ⟨hbody, rfl⟩, rfl⟩ | ⟨rfl, rfl⟩)
    · exact ⟨some body, by simpa using hbody, rfl, by rw [filter_some_ne_nil]⟩
    · exact ⟨none, by simp, rfl, rfl⟩
  · rintro ⟨part, hpart, rfl, rfl⟩
    cases part with
    | none => exact Or.inr ⟨rfl, rfl⟩
    | some body => exact Or.inl ⟨body, ⟨hpart body rfl, by rw [filter_some_ne_nil]⟩, rfl⟩

/-- An optional part whose empty body counts. -/
theorem reads_between_group_iff : (between opening closing (.group name (.many (· != closing)))).Reads t gs ↔
    ∃ part : Option (List Char), (∀ body ∈ part, closing ∉ body) ∧ t = renderPart [opening] [closing] part ∧
      gs = captured name part := by
  rw [reads_between_iff]
  simp only [reads_group_iff, reads_many_iff, not_mem_iff]
  constructor
  · rintro (⟨body, ⟨_, ⟨hbody, rfl⟩, rfl⟩, rfl⟩ | ⟨rfl, rfl⟩)
    · exact ⟨some body, by simpa using hbody, rfl, rfl⟩
    · exact ⟨none, by simp, rfl, rfl⟩
  · rintro ⟨part, hpart, rfl, rfl⟩
    cases part with
    | none => exact Or.inr ⟨rfl, rfl⟩
    | some body => exact Or.inl ⟨body, ⟨[], ⟨hpart body rfl, rfl⟩, rfl⟩, rfl⟩

end Parts

end Dialogue

/-! ## Headers -/

section Headers

open Dialogue Pattern

/-- What a search captures of a header. -/
def Header.groups (h : Header) : List (Part × List Char) :=
  captured .tag (h.tag.filter (· ≠ [])) ++ (captured .expression (h.expression.filter (· ≠ [])) ++
    (captured .character (if h.name = [] then none else some h.name) ++ captured .portrait h.portrait))

theorem reads_spaced_iff {inner : Pattern Part} {t : List Char} {gs : List (Part × List Char)} :
    (spaced inner).Reads t gs ↔ ∃ a w, inner.Reads a gs ∧ (∀ c ∈ w, isBlank c = true) ∧ t = a ++ w := by
  constructor
  · intro h
    obtain ⟨a, w, gs, _, hinner, hgap, rfl, rfl⟩ := reads_append_iff.1 h
    obtain ⟨hw, rfl⟩ := reads_many_iff.1 hgap
    rw [List.append_nil]
    exact ⟨a, w, hinner, hw, rfl⟩
  · rintro ⟨a, w, hinner, hw, rfl⟩
    exact reads_append_iff.2 ⟨a, w, gs, [], hinner, .many hw, rfl, (List.append_nil gs).symm⟩

/-- Whatever the pattern reads is the text of a header. -/
theorem exists_header_of_reads {t : List Char} {gs : List (Part × List Char)} (h : headerPattern.Reads t gs) :
    ∃ header : Header, header.text = t ∧ header.groups = gs := by
  obtain ⟨_, _, _, _, h₅, hc, rfl, rfl⟩ := reads_append_iff.1 h
  obtain ⟨_, _, _, _, h₄, hp, rfl, rfl⟩ := reads_append_iff.1 h₅
  obtain ⟨_, _, _, _, h₃, hn, rfl, rfl⟩ := reads_append_iff.1 h₄
  obtain ⟨_, _, _, _, h₂, he, rfl, rfl⟩ := reads_append_iff.1 h₃
  obtain ⟨_, _, _, _, hd, ht, rfl, rfl⟩ := reads_append_iff.1 h₂
  obtain ⟨_, w₁, hdash, hw₁, rfl⟩ := reads_spaced_iff.1 hd
  obtain ⟨_, w₂, htag, hw₂, rfl⟩ := reads_spaced_iff.1 ht
  obtain ⟨_, w₃, hexpression, hw₃, rfl⟩ := reads_spaced_iff.1 he
  obtain ⟨name, w₄, hname, hw₄, rfl⟩ := reads_spaced_iff.1 hn
  obtain ⟨_, w₅, hportrait, hw₅, rfl⟩ := reads_spaced_iff.1 hp
  obtain ⟨rfl, rfl⟩ := reads_exactly_iff.1 hdash
  obtain ⟨tag, tag_open, rfl, rfl⟩ := reads_between_word_iff.1 htag
  obtain ⟨expression, expression_open, rfl, rfl⟩ := reads_between_word_iff.1 hexpression
  obtain ⟨name_chars, rfl⟩ := reads_word_iff.1 hname
  obtain ⟨portrait, portrait_open, rfl, rfl⟩ := reads_between_group_iff.1 hportrait
  obtain ⟨rfl, rfl⟩ := reads_exactly_iff.1 hc
  let header : Header :=
    { w₁, tag, w₂, expression, w₃, name, w₄, portrait, w₅, tag_open, expression_open, name_chars, portrait_open
      blanks := by simpa using ⟨hw₁, hw₂, hw₃, hw₄, hw₅⟩ }
  refine ⟨header, ?_, ?_⟩
  · simp [header, Header.text, Header.body]
  · simp [header, Header.groups]

/-- The pattern reads every header. -/
theorem Header.reads (h : Header) : headerPattern.Reads h.text h.groups := by
  have hdash : (spaced (exactly '-')).Reads (['-'] ++ h.w₁) [] :=
    reads_spaced_iff.2 ⟨_, _, reads_exactly_iff.2 ⟨rfl, rfl⟩, h.blanks h.w₁ (by simp), rfl⟩
  have htag : (spaced (between '<' '>' (word .tag (· != '>')))).Reads _ _ := reads_spaced_iff.2
    ⟨_, _, reads_between_word_iff.2 ⟨h.tag, h.tag_open, rfl, rfl⟩, h.blanks h.w₂ (by simp), rfl⟩
  have hexpression : (spaced (between '{' '}' (word .expression (· != '}')))).Reads _ _ := reads_spaced_iff.2
    ⟨_, _, reads_between_word_iff.2 ⟨h.expression, h.expression_open, rfl, rfl⟩, h.blanks h.w₃ (by simp), rfl⟩
  have hname : (spaced (word .character isNameChar)).Reads _ _ := reads_spaced_iff.2
    ⟨_, _, reads_word_iff.2 ⟨h.name_chars, rfl⟩, h.blanks h.w₄ (by simp), rfl⟩
  have hportrait : (spaced (between '[' ']' (.group .portrait (.many (· != ']'))))).Reads _ _ := reads_spaced_iff.2
    ⟨_, _, reads_between_group_iff.2 ⟨h.portrait, h.portrait_open, rfl, rfl⟩, h.blanks h.w₅ (by simp), rfl⟩
  have hcolon : (exactly ':').Reads [':'] ([] : List (Part × List Char)) := reads_exactly_iff.2 ⟨rfl, rfl⟩
  have hall : headerPattern.Reads _ _ := ((((hdash.seq htag).seq hexpression).seq hname).seq hportrait).seq hcolon
  simpa [Header.text, Header.body, Header.groups] using hall

end Headers

/-! ## The first way -/

section FirstWay

open Dialogue Pattern

/-- Without a restriction on its characters a word takes everything. -/
theorem head?_ways_word (name : Part) (s : List Char) :
    ((word name fun _ => true).ways s).head? = some ⟨s, captured name (nonempty? s), []⟩ := by
  cases s with
  | nil => rfl
  | cons c s =>
    have hfirst : ((one fun _ => true : Pattern Part).ways (c :: s)).head? = some ⟨[c], [], s⟩ := rfl
    have hrest : ((many fun _ => true : Pattern Part).ways s).head? = some ⟨s, [], []⟩ := by
      rw [head?_ways_many, List.takeWhile_eq_self_iff.2 (by simp), List.dropWhile_eq_nil_iff.2 (by simp)]
    have hword := head?_ways_append hfirst hrest
    apply head?_ways_maybe
    unfold ways
    rw [List.head?_map]
    exact congrArg _ hword

/-- What is said is read at the first try: the blanks first, and then everything. -/
theorem head?_speech (s : List Char) : ∃ w, (speechPattern.ways s).head? = some w ∧
    w.groups = captured .text (nonempty? (skipBlanks s)) :=
  ⟨_, head?_ways_append (head?_ways_many isBlank s) (head?_ways_word .text (skipBlanks s)), rfl⟩

theorem ofGroups_captured (tag expression character portrait text : Option (List Char)) :
    ofGroups (captured .tag tag ++ (captured .expression expression ++ (captured .character character ++
      captured .portrait portrait)) ++ captured .text text) = ⟨tag, expression, character, portrait, text⟩ := by
  cases tag <;> cases expression <;> cases character <;> cases portrait <;> cases text <;> rfl

/-- The groups of a header and of what is said behind it make the dialogue that the header reports. -/
theorem ofGroups_header (h : Header) (rest : List Char) :
    ofGroups (h.groups ++ captured .text (nonempty? (skipBlanks rest))) = (h.parts rest).report := by
  rw [nonempty?_eq]
  exact ofGroups_captured _ _ _ _ _

/-- **The first way of the pattern is what the scan reads**, at every position of a line. -/
theorem first_way_eq (c : Char) (s : List Char) :
    (Dialogue.pattern.ways (c :: s)).head?.map (fun w => ofGroups w.groups) =
      if c = '-' then afterDash? s else none := by
  cases hways : headerPattern.ways (c :: s) with
  | nil =>
    have hnone : Dialogue.pattern.ways (c :: s) = [] := ways_append_eq_nil hways speechPattern
    rw [hnone]
    by_cases hc : c = '-'
    · subst hc
      rw [if_pos rfl]
      cases hd : afterDash? s with
      | none => rfl
      | some d =>
        -- the scan has read a header, and so would the pattern
        obtain ⟨h, rest, rfl⟩ := exists_header_of_afterDash? hd
        have hmem : (⟨h.text, h.groups, rest⟩ : Way Part) ∈ headerPattern.ways ('-' :: (h.body ++ rest)) :=
          (mem_ways_iff headerPattern).2 ⟨rfl, h.reads⟩
        rw [hways] at hmem
        cases hmem
    · rw [if_neg hc]
      rfl
  | cons w ws =>
    have hmem : w ∈ headerPattern.ways (c :: s) := by
      rw [hways]
      exact List.mem_cons_self
    obtain ⟨hs, hreads⟩ := (mem_ways_iff headerPattern).1 hmem
    obtain ⟨h, htext, hgroups⟩ := exists_header_of_reads hreads
    obtain ⟨v, hv, hspeech⟩ := head?_speech w.rest
    have hhead : (headerPattern.ways (c :: s)).head? = some w := by
      rw [hways]
      rfl
    have hfirst : (Dialogue.pattern.ways (c :: s)).head? = some (w.andThen v) := head?_ways_append hhead hv
    have hline : c :: s = '-' :: (h.body ++ w.rest) := by
      rw [hs, ← htext]
      rfl
    -- any header that stands here reports what the scan reads
    obtain ⟨rfl, rfl⟩ := List.cons.inj hline
    rw [hfirst, if_pos rfl, afterDash?_body, ← ofGroups_header, hgroups, ← hspeech]
    rfl

end FirstWay

/-- **Backtracking agrees with the scan.** On every line the search for the dialogue pattern, which tries all its
ways from left to right, finds a dialogue exactly when the scan does, and captures the same parts. -/
theorem backtracking_agrees_with_scan (line : List Char) :
    (Dialogue.pattern.search? line).map (fun (_, w) => Dialogue.ofGroups w.groups) = Dialogue.find? line := by
  induction line with
  | nil => rfl
  | cons c s ih =>
    have hfirst := first_way_eq c s
    unfold Pattern.search?
    rw [find?_cons, ← hfirst, ← ih]
    cases (Dialogue.pattern.ways (c :: s)).head? with
    | some w => rfl
    | none =>
      rw [Option.map_map]
      rfl

-- the first dash is given up only after the name has been tried without its last letters and left out altogether
example : ((Dialogue.pattern.search? "- Al Bo-[x]:".toList).map fun (before, w) => (before, w.groups)) =
    some ("- Al Bo".toList, [(.portrait, ['x'])]) := by
  decide

end DialogueScript
