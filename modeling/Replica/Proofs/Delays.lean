/-
# Delays that double

A span that is doubled a number of times, each time up to the greatest span, is the product of
its nanoseconds with a power of two, up to the greatest span (`doubled_succ`).
-/

import Replica.Backoff

namespace Replica

namespace Span

theorem eq_of_nanos_eq {s t : Span} (h : s.nanos = t.nanos) : s = t := by
  cases s
  cases t
  cases h
  rfl

theorem ofNanos_nanos (s : Span) : ofNanos s.nanos = s := by
  have hlt := s.lt_bound
  apply eq_of_nanos_eq
  rw [nanos_ofNanos]
  omega

/-- **Doubling before or after the greatest span is reached comes to the same.** -/
theorem double_ofNanos (n : Nat) : (ofNanos n).double = ofNanos (n * 2) := by
  have hpos : 0 < bound := by decide
  apply eq_of_nanos_eq
  rw [nanos_double, nanos_ofNanos, nanos_ofNanos]
  omega

/-- A span doubled so many times, or the greatest. -/
def doubled (s : Span) (times : Nat) : Span := ofNanos (s.nanos * Nat.pow 2 times)

@[simp] theorem doubled_zero (s : Span) : s.doubled 0 = s := by
  have hone : Nat.pow 2 0 = 1 := rfl
  rw [doubled, hone, Nat.mul_one, ofNanos_nanos]

theorem doubled_succ (s : Span) (times : Nat) :
    s.doubled (times + 1) = (s.doubled times).double := by
  have hpow : Nat.pow 2 (times + 1) = Nat.pow 2 times * 2 := rfl
  rw [doubled, doubled, double_ofNanos, hpow, Nat.mul_assoc]

end Span

end Replica
