/-
# Growing delays

The pause before a call is made again.  It starts at a unit, doubles each time it is taken,
and is refused from the first time it would pass a cap until it is reset.
-/

import Replica.Span

namespace Replica

structure Backoff where
  unit : Span
  cap : Span
  /-- The delay that is due next. -/
  due : Span
deriving DecidableEq

namespace Backoff

def new (unit cap : Span) : Backoff := { unit, cap, due := unit }

/-- The next delay, or nothing once it has grown past the cap. -/
def next (b : Backoff) : Option Span × Backoff :=
  if b.cap < b.due then (none, b) else (some b.due, { b with due := b.due.double })

/-- Back to the unit. -/
def reset (b : Backoff) : Backoff := { b with due := b.unit }

theorem next_of_lt {b : Backoff} (h : b.cap < b.due) : b.next = (none, b) := if_pos h

theorem next_of_not_lt {b : Backoff} (h : ¬ b.cap < b.due) :
    b.next = (some b.due, { b with due := b.due.double }) := if_neg h

/-- **A refusal changes nothing**, so it is repeated until the reset. -/
theorem next_of_none {b : Backoff} (h : b.next.1 = none) : b.next.2 = b := by
  unfold next at h ⊢
  split <;> simp_all

end Backoff

end Replica
