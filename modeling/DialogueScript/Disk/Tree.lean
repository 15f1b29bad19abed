import DialogueScript.Disk.Path

/-!
# A disk

A disk holds files and directories at locations; a location is the list of names from the root. There are no links, so
the directory above a location is the location without its last name. Paths are followed step by step, and every step
needs a directory to start from.
-/

namespace DialogueScript

/-- A place on a disk: the names from the root down. -/
abbrev Location := List Name

/-- The absolute path of a location. -/
def Location.path (l : Location) : Path := ⟨Path.slash :: List.intercalate [Path.slash] l⟩

/-- What is at a location. -/
inductive Entry where
  | file (content : ByteArray)
  | directory

/-- Whether an entry is a directory. -/
def Entry.isDirectory : Entry → Bool
  | .file _ => false
  | .directory => true

instance : BEq Entry where
  beq
    | .file a, .file b => a.data == b.data
    | .directory, .directory => true
    | _, _ => false

/-- The entries of a disk and the directory from which relative paths start. -/
structure Disk where
  entries : List (Location × Entry)
  workingDirectory : Location

namespace Disk

/-- What is at a location; the root is always a directory. -/
def get? (d : Disk) (l : Location) : Option Entry :=
  if l.isEmpty then some .directory else (d.entries.find? fun e => e.1 == l).map Prod.snd

/-- Whether a directory is at a location. -/
def isDirectory (d : Disk) (l : Location) : Bool :=
  match d.get? l with
  | some e => e.isDirectory
  | none => false

/-- Follows steps from a location. The place where they end need not exist. -/
def follow? (d : Disk) : List Path.Step → Location → Option Location
  | [], l => some l
  | step :: rest, l =>
    if !d.isDirectory l then none
    else
      match step with
      | .stay => d.follow? rest l
      | .up => d.follow? rest l.dropLast
      | .down name => d.follow? rest (l ++ [name])

/-- The locations that following steps passes, the last one included. -/
def places : List Path.Step → Location → List Location
  | [], l => [l]
  | .stay :: rest, l => places rest l
  | .up :: rest, l => l :: places rest l.dropLast
  | .down name :: rest, l => l :: places rest (l ++ [name])

/-- The location that a path leads to. The empty path leads nowhere. -/
def locate? (d : Disk) (p : Path) : Option Location :=
  if p.bytes.isEmpty then none
  else d.follow? p.steps (if p.isAbsolute then [] else d.workingDirectory)

/-- What a path leads to. -/
def find? (d : Disk) (p : Path) : Option Entry := do
  let l ← d.locate? p
  d.get? l

/-- Why no text can be read at a path. -/
inductive Unreadable where
  | missing
  | notText
  deriving DecidableEq, Repr

/-- The text of the file that a path leads to. -/
def readText (d : Disk) (p : Path) : Except Unreadable (List Char) :=
  match d.find? p with
  | none => .error .missing
  | some .directory => .error .notText
  | some (.file content) =>
    match String.fromUTF8? content with
    | some s => .ok s.toList
    | none => .error .notText

/-- The location of the file that a path leads to. -/
def fileAt? (d : Disk) (p : Path) : Option Location := do
  let l ← d.locate? p
  match ← d.get? l with
  | .file _ => some l
  | .directory => none

/-! ## Changes -/

/-- A change to a disk. -/
inductive Change where
  /-- A complete file or a directory is put at a location; the directories above it are made. -/
  | put (location : Location) (entry : Entry)
  /-- A location is cleared, with everything below it. -/
  | remove (location : Location)

/-- The proper beginnings of a location, from the shortest one that is not the root. -/
def ancestors (l : Location) : List Location := ((List.range l.length).drop 1).map l.take

/-- Whether a location is another one or lies below it. -/
def isWithin (l top : Location) : Bool := top.isPrefixOf l

/-- The locations that a change touches, in the order it touches them. To make a directory that is there touches
nothing. -/
def touched (d : Disk) : Change → List Location
  | .put l e =>
    if e.isDirectory && d.isDirectory l then []
    else (ancestors l).filter (fun a => (d.get? a).isNone) ++ [l]
  | .remove l => ((d.entries.map Prod.fst).filter fun m => isWithin m l).reverse

/-- Sets the entry at one location. -/
def set (d : Disk) (l : Location) (e : Entry) : Disk :=
  { d with entries := d.entries.filter (fun m => m.1 != l) ++ [(l, e)] }

/-- The disk after a change. -/
def apply (d : Disk) : Change → Disk
  | .put l e =>
    let d := ((ancestors l).filter fun a => (d.get? a).isNone).foldl (fun d a => d.set a .directory) d
    d.set l e
  | .remove l => { d with entries := d.entries.filter fun m => !isWithin m.1 l }

end Disk

end DialogueScript
