/-
# Items

What a key holds: a value and the version of the write that put it there.
-/

import Replica.Text.Bytes
import Replica.Text.Decimal
import Replica.Version

namespace Replica

structure Item where
  value : Bytes
  version : Version
deriving DecidableEq, Repr

/-- An item for a diagnostic; of the value only the length is told. -/
def Item.describe (i : Item) : String :=
  "DataItem \x7b value_len: " ++ Text.Decimal.ofNat i.value.length ++ ", version: " ++
    Text.Decimal.ofInt i.version.toInt ++ " \x7d"

end Replica
