/-
# How a call is received

What a call to a peer meets, and when a call that is bounded in time ends.
-/

import Replica.Error
import Replica.Span

namespace Replica

/-- A moment: nanoseconds since the clock was started. -/
abbrev Moment := Nat

/-- What a call meets: a delay, and then nothing more, an error, or an answer of which a part
may be replaced. -/
structure Reception where
  delay : Span := .zero
  /-- The call never ends. -/
  hangs : Bool := false
  error : Option Error := none
  /-- The count told in place of the number of records taken. -/
  accepts : Option Nat := none
  /-- The bytes told in place of a snapshot. -/
  snapshot : Option Bytes := none
deriving DecidableEq

/-- When and how a call ends that would end by itself at a moment, or never: what takes longer
than the limit is cut off there. -/
def endOfCall {α : Type} (start : Moment) (limit : Span) (ends : Option Moment)
    (result : Except Error α) : Moment × Except Error α :=
  match ends with
  | some t =>
    if t ≤ start + limit.nanos then (t, result) else (start + limit.nanos, .error .timeout)
  | none => (start + limit.nanos, .error .timeout)

namespace Reception

/-- When a call gets past the delay, if it ever does. -/
def arrival (r : Reception) (start : Moment) : Option Moment :=
  if r.hangs then none else some (start + r.delay.nanos)

/-- The count that is told for records of which `taken` were taken. -/
def told (r : Reception) (taken : Nat) : Nat := r.accepts.getD taken

/-- What comes of a call with `count` records if all of them are taken. -/
def outcome (r : Reception) (count : Nat) : Except Error Nat :=
  match r.error with
  | some e => .error e
  | none => .ok (r.told count)

end Reception

end Replica
