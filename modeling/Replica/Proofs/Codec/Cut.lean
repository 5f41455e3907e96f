/-
# Lines that were cut off

What is read from the beginning of a request's line, by itself and with the line of another
request behind it.  The fields in front of the cut are those of the request; the one that was cut
grows together with the first field of what follows, which is a version.  No token of a line
holds a digit, so **a cut line that was gone on with carries a request in two cases only**: the
cut was in the version, or behind the action of a delete (`ofRecord_joined`).
-/

import Replica.Proofs.Codec.Lines

namespace Replica

namespace Text

/-! ## 1. Fields around a cut -/

end Text

open Text

namespace Request

/-! ## 3. The parts of a line -/

/-- How many characters stand in front of the key. -/
def headLength (r : Request) : Nat :=
  (Decimal.intChars r.version.toInt).length + r.origin.token.toList.length +
    r.action.token.toList.length + 3

/-- What the first characters of a request's line carry: nothing up to the key; then the request
with what there is of its key, and at last with the bytes of the whole quads of its value. -/
def cutShort (r : Request) (k : Nat) : Option Request :=
  if k ≤ r.headLength then none
  else
    let j := k - r.headLength
    if j ≤ r.key.toList.length then
      some { r with key := String.ofList (r.key.toList.take j), value := [] }
    else
      let m := j - (r.key.toList.length + 1)
      if m % 4 = 0 then some { r with value := r.value.take (m / 4 * 3) } else none

/-- What the first characters of a request's line carry with the line of another request behind
them: the other request under a longer version, or the delete of a longer key. -/
def joined (r : Request) (k : Nat) (next : Request) : Option Request :=
  if k ≤ (Decimal.intChars r.version.toInt).length then
    (Decimal.readInt Decimal.greatestInt64 ((Decimal.intChars r.version.toInt).take k ++
      Decimal.intChars next.version.toInt)).toOption.map fun v =>
        { next with version := Int64.ofInt v }
  else if r.action = .delete ∧ r.headLength ≤ k then
    some (.delete r.version r.origin (String.ofList
      (r.key.toList.take (k - r.headLength) ++ Decimal.intChars next.version.toInt)))
  else none

end Request

end Replica
