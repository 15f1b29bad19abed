/-!
# TOML values and tables

A table remembers how it came about, because that decides who may add to it: a header may fill a table that only other
headers implied; a dotted key may add to a table that other dotted keys made or that headers only implied, and makes it
its own; and nobody may add to an inline table or to a static array. `Toml.define?` adds a value under a dotted key,
`Toml.openTable?` and `Toml.openElement?` follow a header.
-/

namespace DialogueScript.Toml

/-- How a table came about. -/
inductive Origin where
  /-- By its own header, or as the whole document. -/
  | header
  /-- Implied by the header of a table inside it. -/
  | implied
  /-- By a dotted key, or implied by a header and then added to by a dotted key. -/
  | dotted
  /-- Written out as a value. -/
  | inline
  deriving DecidableEq, Repr

/-- A TOML value. -/
inductive Value where
  | string (s : String)
  | integer (n : Int)
  /-- A floating-point number, by its literal. -/
  | float (literal : String)
  | boolean (b : Bool)
  /-- A date, a time or both, by its literal. -/
  | dateTime (literal : String)
  | array (items : List Value)
  | table (origin : Origin) (entries : List (String × Value))
  /-- An array of tables with headers: the last table, to which keys are added, and the earlier ones, latest first. -/
  | tables (last : List (String × Value)) (earlier : List (List (String × Value)))
  deriving Repr

/-- The entries of a table in the order they were written. -/
abbrev Entries := List (String × Value)

/-- The value of a key. -/
def get? (key : String) (entries : Entries) : Option Value := (entries.find? fun e => e.1 == key).map Prod.snd

/-- The entries with another value for a key. -/
def set (key : String) (v : Value) (entries : Entries) : Entries :=
  entries.map fun e => if e.1 == key then (key, v) else e

/-- Changes the entries at the end of a path, making the tables on the way that are not there. `viaDots` tells a dotted
key from a header; the change sees how the table it changes came about. -/
def within? (viaDots : Bool) (change : Origin → Entries → Option Entries) :
    List String → Origin → Entries → Option Entries
  | [], origin, entries => change origin entries
  | key :: path, _, entries =>
    match get? key entries with
    | none => do
      let origin := if viaDots then .dotted else .implied
      let inner ← within? viaDots change path origin []
      some (entries ++ [(key, .table origin inner)])
    | some (.table origin inner) =>
      if origin = .inline || (viaDots && origin = .header) then none
      else do
        let origin := if viaDots then .dotted else origin
        let inner ← within? viaDots change path origin inner
        some (set key (.table origin inner) entries)
    | some (.tables last earlier) => do
      let last ← within? viaDots change path .header last
      some (set key (.tables last earlier) entries)
    | some _ => none

/-- Adds a value under a dotted key, whose last part must be new in its table. The tables on the way
must not have a header of their own. -/
def define? (path : List String) (key : String) (v : Value) (entries : Entries) : Option Entries :=
  let add (origin : Origin) (entries : Entries) : Option Entries :=
    if (!path.isEmpty && origin != .dotted) || (get? key entries).isSome then none
    else some (entries ++ [(key, v)])
  within? true add path .header entries

/-- Opens the table of a header: it must be new or only implied so far. -/
def openTable? (path : List String) (key : String) (root : Entries) : Option Entries :=
  let open? (_ : Origin) (entries : Entries) : Option Entries :=
    match get? key entries with
    | none => some (entries ++ [(key, .table .header [])])
    | some (.table .implied inner) => some (set key (.table .header inner) entries)
    | some _ => none
  within? false open? path .header root

/-- Opens a new element of an array of tables. -/
def openElement? (path : List String) (key : String) (root : Entries) : Option Entries :=
  let open? (_ : Origin) (entries : Entries) : Option Entries :=
    match get? key entries with
    | none => some (entries ++ [(key, .tables [] [])])
    | some (.tables last earlier) => some (set key (.tables [] (last :: earlier)) entries)
    | some _ => none
  within? false open? path .header root

/-- Changes the entries of a table that a header has opened. -/
def inside? (change : Entries → Option Entries) : List String → Entries → Option Entries
  | [], entries => change entries
  | key :: path, entries =>
    match get? key entries with
    | some (.table origin inner) => do
      let inner ← inside? change path inner
      some (set key (.table origin inner) entries)
    | some (.tables last earlier) => do
      let last ← inside? change path last
      some (set key (.tables last earlier) entries)
    | _ => none

end DialogueScript.Toml
