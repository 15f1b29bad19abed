import DialogueScript.Diagnostic
import DialogueScript.Line.Comment
import DialogueScript.Line.Dialogue
import DialogueScript.Line.Kind
import DialogueScript.Text.Units

/-!
# Checking one line

A line is classified by its trimmed text and checked as it stands: a dialogue needs a colon, and when its header can be
read it needs a speaker. `diagnose` is the whole check of a line.
-/

namespace DialogueScript

/-- Two columns to the left, but not past the start of the line. -/
def twoBefore (column : UInt32) : UInt32 := if column < 2 then 0 else column - 2

/-- The report of a line without a colon: its first two columns are marked. -/
def missingColonAt (index : Nat) : Diagnostic :=
  { problem := .missingColon, index := index, range := .onLine index.toUInt32 0 2 }

/-- The report of a dialogue without a speaker: the two columns before the colon are marked. -/
def missingCharacterAt (index : Nat) (colon : UInt32) : Diagnostic :=
  { problem := .missingCharacter, index := index, range := .onLine index.toUInt32 (twoBefore colon) colon }

/-- The problems of a line taken as a dialogue. The comment is no part of the header, but the colon may stand in it,
and columns count on the line as written. -/
def checkDialogue (line : List Char) (index : Nat) : List Diagnostic :=
  match cut ':' line with
  | none => [missingColonAt index]
  | some (before, _) =>
    match Dialogue.find? (stripComment line) with
    | some ⟨_, _, none, _, _⟩ => [missingCharacterAt index (columns before).toUInt32]
    | _ => []

/-- The problems of a line taken as an event: there is no grammar of events to break. -/
def checkEvent (_line : List Char) (_index : Nat) : List Diagnostic := []

/-- The check for a kind of line, if there is one. -/
def LineKind.check? : LineKind → Option (List Char → Nat → List Diagnostic)
  | .dialogue => some checkDialogue
  | .event => some checkEvent
  | .unclassified => none

/-- The problems of a line at an index. -/
def diagnose (line : List Char) (index : Nat) : List Diagnostic :=
  match (LineKind.ofTrimmed (trim line)).check? with
  | some check => check line index
  | none => []

end DialogueScript
