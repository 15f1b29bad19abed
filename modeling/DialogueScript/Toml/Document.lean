import DialogueScript.Text.Blank
import DialogueScript.Toml.Scalar

/-!
# TOML documents

A document is a sequence of lines: blank ones, key and value, the header of a table, the header of an array element.
`Toml.parse?` gives the entries of the whole document, or nothing when a line breaks a rule. Arrays and inline tables
may run over several lines and end with a comma; they may be nested eighty deep.
-/

namespace DialogueScript.Toml

/-! ## Keys -/

/-- The characters of a bare key. -/
def isBareKeyChar (c : Char) : Bool :=
  isDigit c || isLetter c || c == '_' || c == '-'

/-- One part of a key. -/
def keyPart? (s : List Char) : Option (String × List Char) :=
  match s with
  | '"' :: rest => basic? (rest.length + 1) [] rest
  | '\'' :: rest => literal? rest
  | _ =>
    let bare := s.takeWhile isBareKeyChar
    if bare.isEmpty then none else some (String.ofList bare, s.drop bare.length)

/-- The parts of a dotted key from the next one on, and the text after them. -/
def keyParts? : Nat → List Char → Option (List String × List Char)
  | 0, _ => none
  | fuel + 1, s => do
    let (part, rest) ← keyPart? (skipSpace s)
    match skipSpace rest with
    | '.' :: rest => do
      let (parts, rest) ← keyParts? fuel rest
      some (part :: parts, rest)
    | rest => some ([part], rest)

/-- A dotted key as the path to its table and its last part. -/
def key? (s : List Char) : Option (List String × String × List Char) := do
  let (parts, rest) ← keyParts? (s.length + 1) s
  let last ← parts.getLast?
  some (parts.dropLast, last, rest)

/-! ## Values -/

/-- How deep arrays and inline tables may be nested. -/
def depthLimit : Nat := 80

mutual

/-- A value at the start of a text. -/
def value? (depth : Nat) : Nat → List Char → Option (Value × List Char)
  | 0, _ => none
  | fuel + 1, s =>
    match s with
    | '"' :: _ | '\'' :: _ => (string? s).map fun (s, rest) => (.string s, rest)
    | '[' :: rest =>
      match depth with
      | 0 => none
      | depth + 1 => (items? depth fuel [] rest).map fun (items, rest) => (.array items, rest)
    | '{' :: rest =>
      match depth with
      | 0 => none
      | depth + 1 => (entries? depth fuel [] rest).map fun (entries, rest) => (.table .inline entries, rest)
    | _ => scalar? s

/-- The items of an array from the next one on; `read` holds the earlier ones, the last one first. -/
def items? (depth : Nat) : Nat → List Value → List Char → Option (List Value × List Char)
  | 0, _, _ => none
  | fuel + 1, read, s =>
    match trivia false s with
    | ']' :: rest => some (read.reverse, rest)
    | s => do
      let (v, rest) ← value? depth fuel s
      match trivia false rest with
      | ',' :: rest => items? depth fuel (v :: read) rest
      | ']' :: rest => some ((v :: read).reverse, rest)
      | _ => none

/-- The entries of an inline table from the next one on. -/
def entries? (depth : Nat) : Nat → Entries → List Char → Option (Entries × List Char)
  | 0, _, _ => none
  | fuel + 1, entries, s =>
    match trivia false s with
    | '}' :: rest => some (entries, rest)
    | s => do
      let (path, key, rest) ← key? s
      let (v, rest) ← value? depth fuel (trivia false (← after? '=' (trivia false rest)))
      let entries ← define? path key v entries
      match trivia false rest with
      | ',' :: rest => entries? depth fuel entries rest
      | '}' :: rest => some (entries, rest)
      | _ => none

end

/-! ## Lines -/

/-- What has been read: the entries of the document and the path of the table that takes the next keys. -/
structure Progress where
  root : Entries
  current : List String

/-- One line that is not blank, up to the blanks and the comment at its end. -/
def statement? (p : Progress) (s : List Char) : Option (Progress × List Char) :=
  match s with
  | '[' :: '[' :: rest => do
    let (path, key, rest) ← key? rest
    let rest ← after? ']' (← after? ']' rest)
    let root ← openElement? path key p.root
    some (⟨root, path ++ [key]⟩, rest)
  | '[' :: rest => do
    let (path, key, rest) ← key? rest
    let rest ← after? ']' rest
    let root ← openTable? path key p.root
    some (⟨root, path ++ [key]⟩, rest)
  | _ => do
    let (path, key, rest) ← key? s
    let (v, rest) ← value? depthLimit (s.length + 1) (skipSpace (← after? '=' rest))
    let root ← inside? (define? path key v) p.current p.root
    some (⟨root, p.current⟩, rest)

/-- The lines of a document from the next one on. -/
def lines? : Nat → Progress → List Char → Option Entries
  | 0, _, _ => none
  | fuel + 1, p, s =>
    match skipSpace s with
    | [] => some p.root
    | '#' :: rest => do
      let rest ← lineEnd? ('#' :: rest)
      lines? fuel p rest
    | s =>
      match newline? s with
      | some rest => lines? fuel p rest
      | none => do
        let (p, rest) ← statement? p s
        let rest ← lineEnd? rest
        lines? fuel p rest

/-- The entries of a document. -/
def parse? (text : List Char) : Option Entries :=
  let s := dropMark text
  lines? (s.length + 1) ⟨[], []⟩ s

end DialogueScript.Toml
