/-
# Sets closed under case

Two characters are the same but for case when they have one simple case folding.  `withCase`
adds to a set what differs from a member by case alone; in ASCII only the twenty-six letters
count, so that `k` is not joined by the Kelvin sign.
-/

import Replica.Text.CharSet
import Replica.Text.Table.CaseOrbit

namespace Replica.CharSet

/-- The pairs of a run. -/
def runPairs (run : Nat × Nat × Nat × Nat) : List (List Nat) :=
  let (start, count, step, distance) := run
  (List.range count).map fun i => [start + i * step, start + i * step + distance]

/-- Every class of characters that differ by case alone, but for those of one member. -/
def caseClasses : List (List Nat) :=
  Text.Table.casePairs.flatMap runPairs ++ Text.Table.caseOrbits

/-- The classes of the ASCII letters. -/
def asciiCaseClasses : List (List Nat) := runPairs (0x41, 26, 1, 32)

/-- The set and all that differs from a member by case alone. -/
def withCase (ascii : Bool) (s : CharSet) : CharSet :=
  let classes := if ascii then asciiCaseClasses else caseClasses
  let touched := classes.filter fun g => g.any fun n => mem n s.ranges
  ofRanges (s.ranges ++ touched.flatten.map fun n => (n, n))

end Replica.CharSet
