import DialogueScript.Text.Blank
import DialogueScript.Text.Cut
import DialogueScript.Text.Digit

/-!
# The dialogue grammar

A dialogue is written `- <tag> {expression} name [portrait] : text`. Everything but the dash and the colon is optional,
and blanks may stand between the parts. `Parts.read?` reads what follows a dash in one pass and never gives back what
it has read; `Dialogue.find?` tries the dashes of a line from the left.
-/

namespace DialogueScript

/-- The parts of a dialogue that are there. -/
structure Dialogue where
  /-- The body of the angle brackets, unless it is empty. -/
  tag : Option (List Char)
  /-- The body of the curly brackets, unless it is empty. -/
  expression : Option (List Char)
  /-- The name of the speaker. -/
  character : Option (List Char)
  /-- The body of the square brackets, even if it is empty. -/
  portrait : Option (List Char)
  /-- What is said, from its first character that is not blank. -/
  text : Option (List Char)
  deriving DecidableEq, Repr

/-- The characters of a speaker's name: letters and digits of ASCII, the underscore and the basic Chinese characters. -/
def isNameChar (c : Char) : Bool :=
  isDigit c || isLetter c || c == '_' || (0x4E00 ≤ c.toNat && c.toNat ≤ 0x9FA5)

/-- The text itself, unless it is empty. -/
def nonempty? : List Char → Option (List Char)
  | [] => none
  | c :: rest => some (c :: rest)

/-- Reads a bracketed part at the start of a text: its body up to the first closing bracket, and the text after it.
Without an opening bracket, or with one that is never closed, nothing is read. -/
def bracketed (opening closing : Char) (s : List Char) : Option (List Char) × List Char :=
  match s with
  | [] => (none, [])
  | c :: rest =>
    if c = opening then
      match cut closing rest with
      | some (body, after) => (some body, after)
      | none => (none, s)
    else (none, s)

/-- The parts of a dialogue as they stand in its line; the rest is everything behind the colon. -/
structure Parts where
  tag : Option (List Char)
  expression : Option (List Char)
  name : List Char
  portrait : Option (List Char)
  rest : List Char

/-- The parts of the dialogue whose dash has just been read, if the text goes on as the grammar wants. -/
def Parts.read? (s : List Char) : Option Parts :=
  let (tag, s) := bracketed '<' '>' (skipBlanks s)
  let (expression, s) := bracketed '{' '}' (skipBlanks s)
  let s := skipBlanks s
  let name := s.takeWhile isNameChar
  let (portrait, s) := bracketed '[' ']' (skipBlanks (s.dropWhile isNameChar))
  match skipBlanks s with
  | [] => none
  | c :: rest => if c = ':' then some ⟨tag, expression, name, portrait, rest⟩ else none

namespace Dialogue

/-- The dialogue with the given parts. -/
def ofParts (p : Parts) : Dialogue where
  tag := p.tag.bind nonempty?
  expression := p.expression.bind nonempty?
  character := nonempty? p.name
  portrait := p.portrait
  text := nonempty? (skipBlanks p.rest)

/-- The dialogue whose dash has just been read. -/
def afterDash? (s : List Char) : Option Dialogue := (Parts.read? s).map ofParts

/-- The dialogue at the leftmost dash of a line from which the grammar can be read. -/
def find? : List Char → Option Dialogue
  | [] => none
  | c :: rest =>
    if c = '-' then
      match afterDash? rest with
      | some dialogue => some dialogue
      | none => find? rest
    else find? rest

end Dialogue

end DialogueScript
