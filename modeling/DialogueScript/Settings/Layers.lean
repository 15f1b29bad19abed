/-!
# Settings layers

The one setting is the cap on the problems reported for a document. Five sources may set it; the first positive value
in the order client, command line, explicit file, workspace file, user file counts. A source that is silent or says zero
is passed over.
-/

namespace DialogueScript

/-- The cap as each source sets it. -/
structure Layers where
  userFile : Option Nat := none
  workspaceFile : Option Nat := none
  configFile : Option Nat := none
  cli : Option Nat := none
  client : Option Nat := none
  deriving DecidableEq, Repr

namespace Layers

/-- The cap when no source sets one. -/
def defaultCap : Nat := 100

/-- The sources from the most to the least important. -/
def ranked (l : Layers) : List (Option Nat) := [l.client, l.cli, l.configFile, l.workspaceFile, l.userFile]

/-- The cap that counts. -/
def cap (l : Layers) : Nat := ((l.ranked.filterMap id).find? (0 < ·)).getD defaultCap

/-- The layers with the file layers of a fresh reading; command line and client keep their values. -/
def reload (l fresh : Layers) : Layers :=
  { l with userFile := fresh.userFile, workspaceFile := fresh.workspaceFile, configFile := fresh.configFile }

end Layers

end DialogueScript
