import Mathlib.Order.Bounds.Defs
import DialogueScript.Line.Dialogue
import DialogueScript.Proofs.Text

/-!
# The dialogue grammar as a relation

A `Header` is one way to write the part of a dialogue from its dash to its colon: the parts in the order of the grammar
and the blanks between them. `Header.At` says that a header stands at a position of a line.

* **Completeness** (`read?_body`): what a header writes, the scan behind a dash reads, and gives back its parts.
* **Soundness** (`exists_header_of_read?`): whatever that scan reads was written by some header.
* **The search** (`find?_eq_none_iff`, `find?_append`): the dialogue of a line is the one behind the leftmost dash from
  which the scan succeeds.

Together they say that `Dialogue.find?` is the parse at the leftmost position where a header stands, and that the parts
are determined by that position (`dialogue_at_leftmost_header`).
-/

namespace DialogueScript

/-- A header as it is written: a dash, the parts that are there, and a colon. The runs `w₁` to `w₅` are the blanks in
front of the tag, the expression, the name, the portrait and the colon. -/
structure Header where
  w₁ : List Char
  tag : Option (List Char)
  w₂ : List Char
  expression : Option (List Char)
  w₃ : List Char
  /-- The name of the speaker; a header without a name has the empty one. -/
  name : List Char
  w₄ : List Char
  portrait : Option (List Char)
  w₅ : List Char
  blanks : ∀ w ∈ [w₁, w₂, w₃, w₄, w₅], ∀ c ∈ w, isBlank c = true
  tag_open : ∀ body ∈ tag, '>' ∉ body
  expression_open : ∀ body ∈ expression, '}' ∉ body
  name_chars : ∀ c ∈ name, isNameChar c = true
  portrait_open : ∀ body ∈ portrait, ']' ∉ body

/-- What is reported of the parts: empty angle and curly brackets count as missing ones, empty square brackets do not,
and the text begins behind the blanks that follow the colon. -/
def Parts.report (p : Parts) : Dialogue where
  tag := p.tag.filter (· ≠ [])
  expression := p.expression.filter (· ≠ [])
  character := if p.name = [] then none else some p.name
  portrait := p.portrait
  text := if p.rest.dropWhile isBlank = [] then none else some (p.rest.dropWhile isBlank)

/-- A part with its brackets, or nothing for a missing part. -/
def renderPart (opening closing : List Char) : Option (List Char) → List Char
  | none => []
  | some body => opening ++ body ++ closing

namespace Header

/-- What a header writes behind its dash. -/
def body (h : Header) : List Char :=
  h.w₁ ++ (renderPart ['<'] ['>'] h.tag ++ (h.w₂ ++ (renderPart ['{'] ['}'] h.expression ++ (h.w₃ ++
    (h.name ++ (h.w₄ ++ (renderPart ['['] [']'] h.portrait ++ (h.w₅ ++ [':']))))))))

/-- What a header writes. -/
def text (h : Header) : List Char := '-' :: h.body

/-- The parts of a header, in front of a rest. -/
def parts (h : Header) (rest : List Char) : Parts := ⟨h.tag, h.expression, h.name, h.portrait, rest⟩

/-- A header stands in a line behind `p` characters, and `rest` follows it. -/
def At (h : Header) (line : List Char) (p : Nat) (rest : List Char) : Prop :=
  ∃ before, before.length = p ∧ line = before ++ h.text ++ rest

end Header

/-! ## The scan behind a dash -/

section Scan

/-- The first character of a text that is not blank. -/
def lead (s : List Char) : Option Char := (skipBlanks s).head?

variable {opening closing : Char} {w s u name : List Char} {part : Option (List Char)}

theorem nonempty?_eq (s : List Char) : nonempty? s = if s = [] then none else some s := by
  cases s <;> simp [nonempty?]

theorem bind_nonempty? (part : Option (List Char)) : part.bind nonempty? = part.filter (· ≠ []) := by
  rcases part with _ | _ | ⟨c, body⟩ <;> rfl

/-- The dialogue with the given parts is what is reported of them. -/
theorem ofParts_eq (p : Parts) : Dialogue.ofParts p = p.report := by
  rw [Dialogue.ofParts, bind_nonempty?, bind_nonempty?, nonempty?_eq, nonempty?_eq]
  rfl

/-! ### What a text leads with -/

theorem not_blank_of_nameChar {c : Char} (hc : isNameChar c = true) : isBlank c = false := by
  by_cases hu : c = '_'
  · subst hu
    decide
  · have hrange : 0x30 ≤ c.toNat ∧ c.toNat ≤ 0x7A ∨ 0x4E00 ≤ c.toNat ∧ c.toNat ≤ 0x9FA5 := by
      simp [isNameChar, isDigit, isLetter, Char.le_def, UInt32.le_iff_toNat_le, hu] at hc
      omega
    simp [isBlank]
    omega

theorem lead_part {x : Char} (hw : ∀ c ∈ w, isBlank c = true) (ho : isBlank opening = false) (closing : Char)
    (part : Option (List Char)) (hx : x ≠ opening) (hu : lead u ≠ some x) :
    lead (w ++ (renderPart [opening] [closing] part ++ u)) ≠ some x := by
  unfold lead
  rw [skipBlanks_gap hw]
  cases part with
  | none => exact hu
  | some body =>
    simp only [renderPart, List.cons_append]
    rw [skipBlanks_cons ho]
    simpa using hx.symm

theorem lead_name {x : Char} (hw : ∀ c ∈ w, isBlank c = true) (hname : ∀ c ∈ name, isNameChar c = true)
    (hx : isNameChar x = false) (hu : lead u ≠ some x) : lead (w ++ (name ++ u)) ≠ some x := by
  unfold lead
  rw [skipBlanks_gap hw]
  cases name with
  | nil => exact hu
  | cons c name =>
    have hc := hname c List.mem_cons_self
    rw [List.cons_append, skipBlanks_cons (not_blank_of_nameChar hc)]
    rintro h
    cases h
    rw [hc] at hx
    cases hx

theorem lead_colon {x : Char} (hw : ∀ c ∈ w, isBlank c = true) (hx : x ≠ ':') (rest : List Char) :
    lead (w ++ ':' :: rest) ≠ some x := by
  unfold lead
  rw [skipBlanks_gap hw, skipBlanks_cons (by decide)]
  simpa using hx.symm

/-! ### Reading one part -/

/-- A bracketed part behind a gap is read whole. Where it is missing, what follows must not look like one. -/
theorem bracketed_gap (closing : Char) (hw : ∀ c ∈ w, isBlank c = true) (ho : isBlank opening = false)
    (hpart : ∀ body ∈ part, closing ∉ body) (hu : lead u ≠ some opening) :
    ∃ v, bracketed opening closing (skipBlanks (w ++ (renderPart [opening] [closing] part ++ u))) = (part, v) ∧
      skipBlanks v = skipBlanks u := by
  rw [skipBlanks_gap hw]
  cases part with
  | none =>
    refine ⟨skipBlanks u, ?_, skipBlanks_skipBlanks u⟩
    simp only [renderPart, List.nil_append]
    unfold lead at hu
    cases hs : skipBlanks u with
    | nil => rfl
    | cons c rest =>
      have hc : c ≠ opening := by
        rintro rfl
        rw [hs] at hu
        exact hu rfl
      simp [bracketed, hc]
  | some body =>
    refine ⟨u, ?_, rfl⟩
    have hcut : cut closing (body ++ closing :: u) = some (body, u) :=
      cut_eq_some_iff.2 ⟨hpart body rfl, rfl⟩
    simp only [renderPart, List.cons_append, List.append_assoc]
    rw [skipBlanks_cons ho]
    simp [bracketed, hcut]

/-- A name ends where no character of a name follows. -/
theorem takeWhile_nameChar (hu : ∀ c, isNameChar c = true → lead u ≠ some c) :
    u.takeWhile isNameChar = [] ∧ u.dropWhile isNameChar = u := by
  cases u with
  | nil => exact ⟨rfl, rfl⟩
  | cons c rest =>
    have hc : isNameChar c = false := by
      by_contra h
      have hc : isNameChar c = true := by simpa using h
      apply hu c hc
      unfold lead
      rw [skipBlanks_cons (not_blank_of_nameChar hc)]
      rfl
    exact ⟨by simp [hc], by simp [hc]⟩

/-- A name behind a gap is read whole. -/
theorem name_gap (hw : ∀ c ∈ w, isBlank c = true) (hname : ∀ c ∈ name, isNameChar c = true)
    (hu : ∀ c, isNameChar c = true → lead u ≠ some c) :
    (skipBlanks (w ++ (name ++ u))).takeWhile isNameChar = name ∧
      skipBlanks ((skipBlanks (w ++ (name ++ u))).dropWhile isNameChar) = skipBlanks u := by
  rw [skipBlanks_gap hw]
  cases name with
  | nil =>
    have hlead : ∀ c, isNameChar c = true → lead (skipBlanks u) ≠ some c := by
      simpa only [lead, skipBlanks_skipBlanks] using hu
    obtain ⟨h₁, h₂⟩ := takeWhile_nameChar hlead
    rw [List.nil_append, h₁, h₂]
    exact ⟨rfl, skipBlanks_skipBlanks u⟩
  | cons c name =>
    obtain ⟨h₁, h₂⟩ := takeWhile_nameChar hu
    have hc := hname c List.mem_cons_self
    have hstop : skipBlanks (c :: name ++ u) = c :: name ++ u := skipBlanks_cons (not_blank_of_nameChar hc) _
    rw [hstop, List.takeWhile_append_of_pos hname, List.dropWhile_append_of_pos hname, h₁, h₂, List.append_nil]
    exact ⟨rfl, rfl⟩

/-- Behind the blanks of a text stands the part that is read, or none, and then the rest. -/
theorem exists_gap_part (h : bracketed opening closing (skipBlanks s) = (part, u)) :
    ∃ w, (∀ c ∈ w, isBlank c = true) ∧ s = w ++ (renderPart [opening] [closing] part ++ u) ∧
      ∀ body ∈ part, closing ∉ body := by
  obtain ⟨w, hw, hs⟩ := exists_gap s
  suffices hpart : skipBlanks s = renderPart [opening] [closing] part ++ u ∧ ∀ body ∈ part, closing ∉ body from
    ⟨w, hw, hs.trans (by rw [← hpart.1]), hpart.2⟩
  generalize skipBlanks s = t at h
  cases t with
  | nil => cases h; simp [renderPart]
  | cons c rest =>
    by_cases hc : c = opening
    · subst hc
      cases hcut : cut closing rest with
      | none =>
        simp only [bracketed, hcut, if_true] at h
        cases h
        simp [renderPart]
      | some pair =>
        obtain ⟨body, after⟩ := pair
        obtain ⟨hbody, rfl⟩ := cut_eq_some_iff.1 hcut
        simp only [bracketed, hcut, if_true] at h
        cases h
        simp [renderPart, hbody]
    · simp only [bracketed, hc, if_false] at h
      cases h
      simp [renderPart]

/-- Behind the blanks of a text stands a name, perhaps the empty one, and then the rest. -/
theorem exists_gap_name (s : List Char) :
    ∃ w, (∀ c ∈ w, isBlank c = true) ∧
      s = w ++ ((skipBlanks s).takeWhile isNameChar ++ (skipBlanks s).dropWhile isNameChar) := by
  obtain ⟨w, hw, hs⟩ := exists_gap s
  exact ⟨w, hw, hs.trans (by rw [List.takeWhile_append_dropWhile])⟩

/-! ### Reading a header -/

/-- **Completeness of the scan**: what a header writes is read, whatever follows. -/
theorem read?_body (h : Header) (rest : List Char) : Parts.read? (h.body ++ rest) = some (h.parts rest) := by
  have hw₁ := h.blanks h.w₁ (by simp)
  have hw₂ := h.blanks h.w₂ (by simp)
  have hw₃ := h.blanks h.w₃ (by simp)
  have hw₄ := h.blanks h.w₄ (by simp)
  have hw₅ := h.blanks h.w₅ (by simp)
  -- what is left to read in front of the expression, the name, the portrait and the colon
  obtain ⟨u₅, hu₅⟩ : ∃ u, u = h.w₅ ++ ':' :: rest := ⟨_, rfl⟩
  obtain ⟨u₄, hu₄⟩ : ∃ u, u = h.w₄ ++ (renderPart ['['] [']'] h.portrait ++ u₅) := ⟨_, rfl⟩
  obtain ⟨u₃, hu₃⟩ : ∃ u, u = h.w₃ ++ (h.name ++ u₄) := ⟨_, rfl⟩
  obtain ⟨u₂, hu₂⟩ : ∃ u, u = h.w₂ ++ (renderPart ['{'] ['}'] h.expression ++ u₃) := ⟨_, rfl⟩
  have hbody : h.body ++ rest = h.w₁ ++ (renderPart ['<'] ['>'] h.tag ++ u₂) := by
    simp [Header.body, hu₂, hu₃, hu₄, hu₅]
  -- none of them leads with what would have to be read before it
  have l₅ : ∀ x, x ≠ ':' → lead u₅ ≠ some x := fun x hx => hu₅ ▸ lead_colon hw₅ hx rest
  have l₄ : ∀ x, x ≠ '[' → x ≠ ':' → lead u₄ ≠ some x := fun x h₁ h₂ =>
    hu₄ ▸ lead_part hw₄ (by decide) ']' h.portrait h₁ (l₅ x h₂)
  have l₃ : ∀ x, isNameChar x = false → x ≠ '[' → x ≠ ':' → lead u₃ ≠ some x := fun x h₀ h₁ h₂ =>
    hu₃ ▸ lead_name hw₃ h.name_chars h₀ (l₄ x h₁ h₂)
  have l₂ : lead u₂ ≠ some '<' :=
    hu₂ ▸ lead_part hw₂ (by decide) '}' h.expression (by decide) (l₃ '<' (by decide) (by decide) (by decide))
  have hname : ∀ c, isNameChar c = true → lead u₄ ≠ some c := by
    intro c hc
    apply l₄ c
    · rintro rfl
      revert hc
      decide
    · rintro rfl
      revert hc
      decide
  obtain ⟨v₁, ht, hv₁⟩ := bracketed_gap '>' hw₁ (by decide) h.tag_open l₂
  obtain ⟨v₂, he, hv₂⟩ := bracketed_gap '}' hw₂ (by decide) h.expression_open
    (l₃ '{' (by decide) (by decide) (by decide))
  obtain ⟨hn, hv₃⟩ := name_gap hw₃ h.name_chars hname
  obtain ⟨v₄, hp, hv₄⟩ := bracketed_gap ']' hw₄ (by decide) h.portrait_open (l₅ '[' (by decide))
  have hcolon : skipBlanks u₅ = ':' :: rest := by
    rw [hu₅, skipBlanks_gap hw₅]
    exact skipBlanks_cons (by decide) rest
  rw [← hu₂] at he
  rw [← hu₃] at hn hv₃
  rw [← hu₄] at hp
  unfold Parts.read?
  simp only [hbody, ht, hv₁, he, hv₂, hn, hv₃, hp, hv₄, hcolon, if_true]
  rfl

/-- **Soundness of the scan**: the parts that are read were written by a header. -/
theorem exists_header_of_read? {p : Parts} (h : Parts.read? s = some p) :
    ∃ (header : Header) (rest : List Char), s = header.body ++ rest ∧ header.parts rest = p := by
  unfold Parts.read? at h
  rcases hb₁ : bracketed '<' '>' (skipBlanks s) with ⟨tag, s₁⟩
  rcases hb₂ : bracketed '{' '}' (skipBlanks s₁) with ⟨expression, s₂⟩
  rcases hb₃ : bracketed '[' ']' (skipBlanks ((skipBlanks s₂).dropWhile isNameChar)) with ⟨portrait, s₃⟩
  simp only [hb₁, hb₂, hb₃] at h
  obtain ⟨w₁, hw₁, hs, htag⟩ := exists_gap_part hb₁
  obtain ⟨w₂, hw₂, hs₁, hexpression⟩ := exists_gap_part hb₂
  obtain ⟨w₃, hw₃, hs₂⟩ := exists_gap_name s₂
  obtain ⟨w₄, hw₄, hname, hportrait⟩ := exists_gap_part hb₃
  obtain ⟨w₅, hw₅, hs₃⟩ := exists_gap s₃
  cases hrest : skipBlanks s₃ with
  | nil => simp [hrest] at h
  | cons c rest =>
    by_cases hc : c = ':'
    · subst hc
      simp only [hrest, if_true, Option.some.injEq] at h
      let header : Header :=
        { w₁ := w₁, tag := tag, w₂ := w₂, expression := expression, w₃ := w₃
          name := (skipBlanks s₂).takeWhile isNameChar
          w₄ := w₄, portrait := portrait, w₅ := w₅
          blanks := by simpa using ⟨hw₁, hw₂, hw₃, hw₄, hw₅⟩
          tag_open := htag
          expression_open := hexpression
          name_chars := fun _ hc => List.mem_takeWhile_imp hc
          portrait_open := hportrait }
      refine ⟨header, rest, ?_, h⟩
      -- the pieces are put together again from the colon to the dash
      simp only [header, Header.body, List.append_assoc, List.cons_append, List.nil_append]
      rw [← hrest, ← hs₃, ← hname, ← hs₂, ← hs₁, ← hs]
    · simp [hrest, hc] at h

theorem afterDash?_body (h : Header) (rest : List Char) :
    Dialogue.afterDash? (h.body ++ rest) = some (h.parts rest).report := by
  rw [Dialogue.afterDash?, read?_body, Option.map_some, ofParts_eq]

theorem exists_header_of_afterDash? {s : List Char} {d : Dialogue} (h : Dialogue.afterDash? s = some d) :
    ∃ (header : Header) (rest : List Char), s = header.body ++ rest := by
  obtain ⟨p, hp, -⟩ := Option.map_eq_some_iff.1 h
  obtain ⟨header, rest, hs, -⟩ := exists_header_of_read? hp
  exact ⟨header, rest, hs⟩

end Scan

/-! ## The search for a dash -/

section Search

variable {line before s : List Char} {d : Dialogue}

/-- One step of the search: the first character counts if it is a dash that works. -/
theorem find?_cons (c : Char) (rest : List Char) :
    Dialogue.find? (c :: rest) = (if c = '-' then Dialogue.afterDash? rest else none).or (Dialogue.find? rest) := by
  rw [Dialogue.find?]
  by_cases hc : c = '-'
  · rw [if_pos hc, if_pos hc]
    cases Dialogue.afterDash? rest with
    | some d => rfl
    | none => rfl
  · rw [if_neg hc, if_neg hc, Option.none_or]

theorem find?_eq_none_iff :
    Dialogue.find? line = none ↔ ∀ before s, line = before ++ '-' :: s → Dialogue.afterDash? s = none := by
  induction line with
  | nil => simp [Dialogue.find?]
  | cons c rest ih =>
    rw [find?_cons, Option.or_eq_none_iff, ih]
    constructor
    · rintro ⟨hfirst, hrest⟩ before s hline
      cases before with
      | nil =>
        cases hline
        exact hfirst
      | cons b before =>
        cases hline
        exact hrest before s rfl
    · intro h
      refine ⟨?_, fun before s hrest => h (c :: before) s (by rw [hrest]; rfl)⟩
      by_cases hc : c = '-'
      · rw [if_pos hc]
        exact h [] rest (by rw [hc]; rfl)
      · rw [if_neg hc]

/-- The leftmost dash from which the scan succeeds gives the dialogue of the line. -/
theorem find?_append (hs : Dialogue.afterDash? s = some d)
    (hleft : ∀ a b, before = a ++ '-' :: b → Dialogue.afterDash? (b ++ '-' :: s) = none) :
    Dialogue.find? (before ++ '-' :: s) = some d := by
  induction before with
  | nil =>
    rw [List.nil_append, find?_cons, if_pos rfl, hs]
    rfl
  | cons c before ih =>
    have hfirst : (if c = '-' then Dialogue.afterDash? (before ++ '-' :: s) else none) = none := by
      by_cases hc : c = '-'
      · rw [if_pos hc]
        exact hleft [] before (by rw [hc]; rfl)
      · rw [if_neg hc]
    rw [List.cons_append, find?_cons, hfirst, Option.none_or]
    exact ih fun a b hab => hleft (c :: a) b (by rw [hab]; rfl)

end Search

/-! ## The leftmost header -/

section Leftmost

variable {line : List Char} {p : Nat}

/-- Headers stand exactly where the scan behind a dash succeeds. -/
theorem exists_header_at_iff : (∃ (h : Header) (rest : List Char), h.At line p rest) ↔
    ∃ before s d, before.length = p ∧ line = before ++ '-' :: s ∧ Dialogue.afterDash? s = some d := by
  constructor
  · rintro ⟨h, rest, before, hp, rfl⟩
    exact ⟨before, h.body ++ rest, _, hp, by simp [Header.text], afterDash?_body h rest⟩
  · rintro ⟨before, s, d, hp, rfl, hd⟩
    obtain ⟨h, rest, rfl⟩ := exists_header_of_afterDash? hd
    exact ⟨h, rest, before, hp, by simp [Header.text]⟩

theorem find?_isSome_iff :
    (Dialogue.find? line).isSome = true ↔ ∃ p, ∃ (h : Header) (rest : List Char), h.At line p rest := by
  simp only [exists_header_at_iff]
  constructor
  · intro h
    by_contra hno
    rw [Option.isSome_iff_ne_none] at h
    apply h
    rw [find?_eq_none_iff]
    intro before s hline
    cases hd : Dialogue.afterDash? s with
    | none => rfl
    | some d => exact absurd ⟨before.length, before, s, d, rfl, hline, hd⟩ hno
  · rintro ⟨_, before, s, d, -, hline, hd⟩
    rw [Option.isSome_iff_ne_none]
    intro h
    rw [find?_eq_none_iff.1 h before s hline] at hd
    cases hd

/-- A position fixes the parts of the headers that stand there, however their blanks are divided. -/
theorem parts_eq_of_at {h h' : Header} {rest rest' : List Char} (hat : h.At line p rest) (hat' : h'.At line p rest') :
    h.parts rest = h'.parts rest' := by
  obtain ⟨before, hp, hline⟩ := hat
  obtain ⟨before', hp', hline'⟩ := hat'
  have he : before ++ (h.text ++ rest) = before' ++ (h'.text ++ rest') := by
    rw [← List.append_assoc, ← List.append_assoc, ← hline, ← hline']
  obtain ⟨-, htext⟩ := List.append_inj he (hp.trans hp'.symm)
  have hbody : h.body ++ rest = h'.body ++ rest' := List.tail_eq_of_cons_eq htext
  have hread := read?_body h rest
  rw [hbody, read?_body h' rest'] at hread
  exact (Option.some.inj hread).symm

/-- The leftmost header of a line is its dialogue. -/
theorem find?_of_leftmost {h : Header} {rest : List Char} (hat : h.At line p rest)
    (hleft : ∀ q < p, ∀ (h : Header) (rest : List Char), ¬ h.At line q rest) :
    Dialogue.find? line = some (h.parts rest).report := by
  obtain ⟨before, hp, rfl⟩ := hat
  rw [List.append_assoc]
  apply find?_append (afterDash?_body h rest)
  rintro a b rfl
  cases hd : Dialogue.afterDash? (b ++ '-' :: (h.body ++ rest)) with
  | none => rfl
  | some d =>
    -- a dash further left from which the scan succeeds would be a header further left
    obtain ⟨h', rest', hat'⟩ := exists_header_at_iff.2
      ⟨a, b ++ '-' :: (h.body ++ rest), d, rfl, rfl, hd⟩
    refine absurd ?_ (hleft a.length (by rw [← hp]; simp) h' rest')
    simpa [Header.text] using hat'

/-- **The dialogue of a line is the grammar's parse at the leftmost position where a header stands.** There is one if
and only if a header stands anywhere, the leftmost position determines the parts, and these are what is reported. -/
theorem dialogue_at_leftmost_header (line : List Char) :
    ((Dialogue.find? line).isSome = true ↔ ∃ p, ∃ (h : Header) (rest : List Char), h.At line p rest) ∧
      ∀ p, IsLeast {p | ∃ (h : Header) (rest : List Char), h.At line p rest} p →
        ∃ parts : Parts, (∀ (h : Header) (rest : List Char), h.At line p rest → h.parts rest = parts) ∧
          Dialogue.find? line = some parts.report := by
  refine ⟨find?_isSome_iff, ?_⟩
  rintro p ⟨⟨h, rest, hat⟩, hleast⟩
  refine ⟨h.parts rest, fun h' rest' hat' => parts_eq_of_at hat' hat, find?_of_leftmost hat ?_⟩
  intro q hq h' rest' hat'
  exact absurd (hleast ⟨h', rest', hat'⟩) (Nat.not_le.2 hq)

-- the tag is never closed, so its dash is passed over and the dash inside it counts
example : Dialogue.find? "-<a-: -Bob[]: hi".toList = some ⟨none, none, none, none, some "-Bob[]: hi".toList⟩ := by
  decide

end Leftmost

end DialogueScript
