import DialogueScript.Proofs.Grammar

/-!
# Dialogues written down again

`Dialogue.render` writes the parts of a dialogue as a line. Not every dialogue can be read back from its line: a closing
bracket in a tag would end the tag, an empty tag would count as missing, a text would lose its leading blanks.
`Dialogue.Legible` collects what a part must and must not hold.

* Whatever is found in a line is legible, wherever in the line it stands (`legible_of_find?`).
* The line of a legible dialogue is the text of a header and what is said (`Dialogue.header`, `render_eq`), so the
  dialogue is found in it (`find?_render_iff`).

Hence rendering loses nothing of a dialogue that was found (`render_loses_nothing`).
-/

namespace DialogueScript

/-- The dialogue as a line: the parts that are there in the order of the grammar, a blank before name and text. -/
def Dialogue.render (d : Dialogue) : List Char :=
  ['-'] ++ renderPart ['<'] ['>'] d.tag ++ renderPart ['{'] ['}'] d.expression ++ renderPart [' '] [] d.character ++
    renderPart ['['] [']'] d.portrait ++ [':'] ++ renderPart [' '] [] d.text

/-- The parts of a dialogue can be told from its line: no body holds its closing bracket, tag and expression are not
empty, a name is a run of its characters, and what is said begins with something that is not blank. -/
structure Dialogue.Legible (d : Dialogue) : Prop where
  tag : ∀ body ∈ d.tag, body ≠ [] ∧ '>' ∉ body
  expression : ∀ body ∈ d.expression, body ≠ [] ∧ '}' ∉ body
  character : ∀ name ∈ d.character, name ≠ [] ∧ ∀ c ∈ name, isNameChar c = true
  portrait : ∀ body ∈ d.portrait, ']' ∉ body
  text : ∀ text ∈ d.text, text ≠ [] ∧ skipBlanks text = text

/-! ## What is found is legible -/

section Found

variable {line : List Char} {d : Dialogue}

/-- A dialogue is found behind a dash. -/
theorem exists_dash_of_find? (h : Dialogue.find? line = some d) :
    ∃ before s, line = before ++ '-' :: s ∧ Dialogue.afterDash? s = some d := by
  induction line with
  | nil => cases h
  | cons c rest ih =>
    rw [find?_cons, Option.or_eq_some_iff] at h
    rcases h with hfirst | ⟨-, hrest⟩
    · obtain ⟨rfl, hdash⟩ := Option.ite_none_right_eq_some.1 hfirst
      exact ⟨[], rest, rfl, hdash⟩
    · obtain ⟨before, s, rfl, hs⟩ := ih hrest
      exact ⟨c :: before, s, rfl, hs⟩

/-- A dialogue is the report of a header that stands in its line. -/
theorem exists_header_of_find? (h : Dialogue.find? line = some d) :
    ∃ (header : Header) (rest : List Char), (header.parts rest).report = d := by
  obtain ⟨before, s, -, hs⟩ := exists_dash_of_find? h
  obtain ⟨header, rest, rfl⟩ := exists_header_of_afterDash? hs
  rw [afterDash?_body] at hs
  exact ⟨header, rest, Option.some.inj hs⟩

theorem mem_filter_ne_nil {part : Option (List Char)} {body : List Char} :
    body ∈ part.filter (· ≠ []) ↔ body ∈ part ∧ body ≠ [] := by
  simp [Option.mem_def, Option.filter_eq_some_iff]

theorem mem_unless_nil {s body : List Char} : body ∈ (if s = [] then none else some s) ↔ s ≠ [] ∧ body = s := by
  by_cases h : s = [] <;> simp [h, eq_comm]

theorem Header.legible_report (h : Header) (rest : List Char) : (h.parts rest).report.Legible where
  tag body hbody := by
    obtain ⟨htag, hne⟩ := mem_filter_ne_nil.1 hbody
    exact ⟨hne, h.tag_open body htag⟩
  expression body hbody := by
    obtain ⟨hexpression, hne⟩ := mem_filter_ne_nil.1 hbody
    exact ⟨hne, h.expression_open body hexpression⟩
  character name hname := by
    obtain ⟨hne, rfl⟩ := mem_unless_nil.1 hname
    exact ⟨hne, h.name_chars⟩
  portrait := h.portrait_open
  text text htext := by
    obtain ⟨hne, rfl⟩ := mem_unless_nil.1 htext
    exact ⟨hne, skipBlanks_skipBlanks rest⟩

theorem legible_of_find? (h : Dialogue.find? line = some d) : d.Legible := by
  obtain ⟨header, rest, rfl⟩ := exists_header_of_find? h
  exact header.legible_report rest

end Found

/-! ## What is legible is found -/

section Written

variable {d : Dialogue}

/-- The header that is written for a dialogue: a blank in front of the name, and no other. -/
def Dialogue.header (d : Dialogue) (hd : d.Legible) : Header where
  w₁ := []
  tag := d.tag
  w₂ := []
  expression := d.expression
  w₃ := if d.character = none then [] else [' ']
  name := d.character.getD []
  w₄ := []
  portrait := d.portrait
  w₅ := []
  blanks := by
    have hspace : isBlank ' ' = true := by decide
    split <;> simp [hspace]
  tag_open body hbody := (hd.tag body hbody).2
  expression_open body hbody := (hd.expression body hbody).2
  name_chars := by
    intro c hc
    cases hname : d.character with
    | none =>
      rw [hname] at hc
      cases hc
    | some name =>
      rw [hname] at hc
      exact (hd.character name hname).2 c hc
  portrait_open := hd.portrait

/-- The line of a dialogue is the header that is written for it, and what is said behind a blank. -/
theorem render_eq (hd : d.Legible) : d.render = (d.header hd).text ++ renderPart [' '] [] d.text := by
  have hname : renderPart [' '] [] d.character =
      (if d.character = none then [] else [' ']) ++ d.character.getD [] := by
    cases d.character <;> simp [renderPart]
  simp [Dialogue.render, Dialogue.header, Header.text, Header.body, hname]

theorem filter_ne_nil {part : Option (List Char)} (h : ∀ body ∈ part, body ≠ []) : part.filter (· ≠ []) = part := by
  cases part with
  | none => rfl
  | some body => simp [h body rfl]

/-- The header that is written for a dialogue reports that dialogue. -/
theorem report_header (hd : d.Legible) :
    ((d.header hd).parts (renderPart [' '] [] d.text)).report = d := by
  have htag : d.tag.filter (· ≠ []) = d.tag := filter_ne_nil fun body hbody => (hd.tag body hbody).1
  have hexpression : d.expression.filter (· ≠ []) = d.expression :=
    filter_ne_nil fun body hbody => (hd.expression body hbody).1
  have hname : (if d.character.getD [] = [] then none else some (d.character.getD [])) = d.character := by
    cases h : d.character with
    | none => rfl
    | some name => exact if_neg (hd.character name h).1
  have htext : nonempty? (skipBlanks (renderPart [' '] [] d.text)) = d.text := by
    cases h : d.text with
    | none => rfl
    | some text =>
      obtain ⟨hne, hskip⟩ := hd.text text h
      -- the blank in front is skipped, and the text begins with none of its own
      have hblank : skipBlanks (renderPart [' '] [] (some text)) = skipBlanks text := by
        simp [renderPart, skipBlanks, isBlank]
      rw [hblank, hskip, nonempty?_eq, if_neg hne]
  rw [nonempty?_eq] at htext
  obtain ⟨tag, expression, character, portrait, text⟩ := d
  simp only [Parts.report, Header.parts, Dialogue.header, Dialogue.mk.injEq]
  exact ⟨htag, hexpression, hname, trivial, htext⟩

/-- **The legible dialogues are those that are found in their own line.** -/
theorem find?_render_iff : Dialogue.find? d.render = some d ↔ d.Legible := by
  refine ⟨legible_of_find?, fun hd => ?_⟩
  have hdash : (d.header hd).text ++ renderPart [' '] [] d.text =
      '-' :: ((d.header hd).body ++ renderPart [' '] [] d.text) := rfl
  rw [render_eq hd, hdash, find?_cons, if_pos rfl, afterDash?_body, report_header, Option.some_or]

end Written

/-- **Rendering loses nothing.** A dialogue that was found in any line is found again in the line that is written for
it, with all its parts. -/
theorem render_loses_nothing {line : List Char} {d : Dialogue} (h : Dialogue.find? line = some d) :
    Dialogue.find? d.render = some d :=
  find?_render_iff.2 (legible_of_find? h)

/-- A dialogue in the middle of a line, with a dash, a bracket and a line break in its parts and blanks all around. -/
def crowdedLine : List Char := "Act 1 -\t<a-<b> \x7b\n:\x7d 小明 [ ]\u3000:  - <c>: hi (x) ".toList

/-- The parts of that dialogue. -/
def crowdedDialogue : Dialogue :=
  ⟨some "a-<b".toList, some "\n:".toList, some "小明".toList, some " ".toList, some "- <c>: hi (x) ".toList⟩

theorem crowdedLine_loses_nothing :
    Dialogue.find? crowdedLine = some crowdedDialogue ∧
      crowdedDialogue.render = "-<a-<b>\x7b\n:\x7d 小明[ ]: - <c>: hi (x) ".toList ∧
      Dialogue.find? crowdedDialogue.render = some crowdedDialogue := by
  have hfind : Dialogue.find? crowdedLine = some crowdedDialogue := by decide
  exact ⟨hfind, by decide, render_loses_nothing hfind⟩

end DialogueScript
