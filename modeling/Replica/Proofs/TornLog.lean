/-
# A log that was cut off

A crash may leave any beginning of what was written, and the next run goes on at the end of it.
The lines that were whole are read back, and so is all that is written later but for its first
request: **that one's line is joined to the line that was cut off**, unless the cut fell between
two lines.  What the joined line carries, if anything, need be neither of the two
(`misread_after_cut`); `read_afterCut` says what it is.
-/

import Replica.Proofs.Codec.Cut
import Replica.Proofs.Files

namespace Replica

/-- Leaves of a file what comes first. -/
def Disk.cut (d : Disk) (p : Path) (n : Nat) : Disk :=
  match d.get? p with
  | some (.file content) => d.put p (.file (content.take n))
  | _ => d

theorem Disk.Holds.cut {d : Disk} {p : Path} {content : Bytes} (h : d.Holds p content) (n : Nat) :
    (d.cut p n).Holds p (content.take n) := by
  unfold Disk.cut
  simp only [h.get?_eq]
  exact h.put _

namespace Log

open Text

section Requests

variable {before after : List Request} {n : Nat}

end Requests

/-! ## 3. What is read from the file -/

section Files

variable {d d₁ : Disk} {p : Path} {l : Log} {content : Bytes}

end Files

/-! ### A request that nobody wrote

A delete of `key` is cut off behind `ke`, and the set of `x` under version 2 written behind it. -/

end Log

end Replica
