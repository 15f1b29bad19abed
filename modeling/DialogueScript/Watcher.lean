import DialogueScript.Disk.Tree

/-!
# Watching settings files

A watcher is given a list of files. It watches the directories of these files that exist when it starts, because a file
may be made later, and reports every change in one of them whose name is one of the names in the list, whichever
directory that name came from. Changes further down are not seen. A watched directory that is removed is itself reported
if its name is in the list, and is watched no longer.
-/

namespace DialogueScript

/-- The names that matter, and the watched directories by path and location, in order. -/
structure Watcher where
  names : List Name
  directories : List (Path × Location)

namespace Watcher

/-- A directory by its path and its location. -/
def directoryAt? (d : Disk) (p : Path) : Option (Path × Location) := do
  let l ← d.locate? p
  if d.isDirectory l then some (p, l) else none

/-- Starts to watch for changes of some files. -/
def start (d : Disk) (files : List Path) : Watcher :=
  { names := files.filterMap Path.fileName?
    directories := (Path.sorted (files.filterMap Path.parent?)).filterMap (directoryAt? d) }

/-- The paths of the watched directories. -/
def watchedDirectories (w : Watcher) : List Path := w.directories.map Prod.fst

/-- The path of the watched directory at a location. Where two watched paths lead to the same directory, the later one
names it. -/
def pathOf? (w : Watcher) (l : Location) : Option Path :=
  (w.directories.reverse.find? fun entry => entry.2 == l).map Prod.fst

/-- The path under which a change at a location is reported, if it is. -/
def report? (w : Watcher) (l : Location) : Option Path := do
  let name ← l.getLast?
  let dir ← w.pathOf? l.dropLast
  if w.names.contains name then some (dir.join ⟨name⟩) else none

/-- The path under which the removal of a watched directory is reported, if it is. -/
def reportLoss? (w : Watcher) (l : Location) : Option Path := do
  let dir ← w.pathOf? l
  let name ← dir.fileName?
  if w.names.contains name then some dir else none

/-- The paths reported for a change of a disk. -/
def reports (w : Watcher) (d : Disk) (c : Disk.Change) : List Path :=
  match c with
  | .put _ _ => (d.touched c).filterMap w.report?
  | .remove _ => (d.touched c).flatMap fun l => (w.report? l).toList ++ (w.reportLoss? l).toList

/-- The watcher after a change: a removed directory takes its watch with it. -/
def after (w : Watcher) : Disk.Change → Watcher
  | .put _ _ => w
  | .remove l => { w with directories := w.directories.filter fun entry => !Disk.isWithin entry.2 l }

end Watcher

end DialogueScript
