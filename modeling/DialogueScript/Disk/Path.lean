import DialogueScript.Text.Cut
import DialogueScript.Text.Utf8

/-!
# Paths

A path is kept as it was written, because messages show it so. It is a string of bytes, which need not be UTF-8. Its
parts are the names between the slashes; repeated slashes and single dots do not count, except for a dot that begins the
path. `Path.parent?` and `Path.fileName?` work on the parts and leave the rest alone.
-/

namespace DialogueScript

/-- The name of a file or directory, in bytes. -/
abbrev Name := List UInt8

/-- The name that a text spells. -/
def Name.ofText (s : String) : Name := Utf8.encode s.toList

/-- A path as written, in bytes. -/
structure Path where
  bytes : List UInt8
  deriving DecidableEq, Repr

namespace Path

/-- The byte between two names. -/
def slash : UInt8 := 0x2F

/-- The byte of a point. -/
def dot : UInt8 := 0x2E

/-- The path that a text spells. -/
def ofText (s : String) : Path := ⟨Utf8.encode s.toList⟩

/-- A path as messages show it. -/
def text (p : Path) : String := String.ofList (Utf8.decodeLossy p.bytes)

/-- Whether a path starts at the root. -/
def isAbsolute (p : Path) : Bool := p.bytes.head? == some slash

/-- A path below another one; an absolute one stands alone. -/
def join (base : Path) (p : Path) : Path :=
  if p.isAbsolute || base.bytes.isEmpty then p
  else if base.bytes.getLast? == some slash then ⟨base.bytes ++ p.bytes⟩
  else ⟨base.bytes ++ [slash] ++ p.bytes⟩

/-- The bytes of a path, last one first, without the slashes and dots at its end that do not count. -/
def dropIdle : List UInt8 → List UInt8
  | [] => []
  | b :: rest =>
    if b = slash then if rest.isEmpty then [slash] else dropIdle rest
    else if b = dot && rest.head? == some slash then dropIdle rest
    else b :: rest

/-- The path without its last part. The root and the empty path have no parent. -/
def parent? (p : Path) : Option Path :=
  let s := dropIdle p.bytes.reverse
  if s.isEmpty || s = [slash] then none
  else some ⟨(dropIdle (s.dropWhile (· != slash))).reverse⟩

/-- The last part of a path, if it is a name. -/
def fileName? (p : Path) : Option Name :=
  let last := ((dropIdle p.bytes.reverse).takeWhile (· != slash)).reverse
  if last = [] || last = [dot] || last = [dot, dot] then none else some last

/-- A step of a path through the directories. -/
inductive Step where
  /-- Stay, which needs a directory to stay in. -/
  | stay
  /-- Go to the directory above. -/
  | up
  /-- Go to an entry. -/
  | down (name : Name)
  deriving DecidableEq, Repr

/-- The step that a piece between two slashes stands for. -/
def stepOf (piece : List UInt8) : Step :=
  if piece = [] || piece = [dot] then .stay
  else if piece = [dot, dot] then .up
  else .down piece

/-- The steps of a path, from the root or from the working directory. -/
def steps (p : Path) : List Step := (splitOn slash p.bytes).map stepOf

/-- A key by which paths are ordered part by part: the root, then a leading dot, then two dots, then names. -/
def sortKey (p : Path) : List (Nat × Name) :=
  let start := if p.isAbsolute then [(0, [])] else if p.steps.head? == some .stay then [(1, [])] else []
  start ++ p.steps.filterMap fun s =>
    match s with
    | .stay => none
    | .up => some (2, [])
    | .down name => some (3, name)

/-- Whether one key comes before another. -/
def keyBefore : List (Nat × Name) → List (Nat × Name) → Bool
  | [], [] => false
  | [], _ :: _ => true
  | _ :: _, [] => false
  | (m, a) :: r, (n, b) :: s =>
    if m != n then m < n else if a != b then decide (a < b) else keyBefore r s

/-- Puts a path in its place among ordered ones, instead of one with the same parts. -/
def insertOrdered (p : Path) : List Path → List Path
  | [] => [p]
  | q :: rest =>
    if p.sortKey = q.sortKey then p :: rest
    else if keyBefore p.sortKey q.sortKey then p :: q :: rest
    else q :: insertOrdered p rest

/-- The different paths of a list in order. -/
def sorted (ps : List Path) : List Path := ps.foldl (fun acc p => insertOrdered p acc) []

end Path

end DialogueScript
