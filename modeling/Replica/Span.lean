/-
# Spans of time

A length of time in nanoseconds, up to the greatest that 64 bits of seconds can tell.  Sums
and doubles stop there.
-/

namespace Replica

/-- The nanoseconds of a millisecond. -/
def nanosPerMilli : Nat := 1000000

/-- The nanoseconds of a second. -/
def nanosPerSecond : Nat := 1000000000

/-- The greatest span is one nanosecond short of this. -/
def Span.bound : Nat := 18446744073709551616 * nanosPerSecond

/-- A length of time. -/
structure Span where
  nanos : Nat
  lt_bound : nanos < Span.bound := by decide
deriving DecidableEq

namespace Span

/-- The span of so many nanoseconds, or the greatest. -/
def ofNanos (n : Nat) : Span :=
  if h : n < bound then ⟨n, h⟩ else ⟨bound - 1, by decide⟩

def ofMillis (n : Nat) : Span := ofNanos (n * nanosPerMilli)

def ofSeconds (n : Nat) : Span := ofNanos (n * nanosPerSecond)

/-- The span of whole seconds and some nanoseconds more. -/
def ofParts (seconds nanos : Nat) : Span := ofNanos (seconds * nanosPerSecond + nanos)

def zero : Span := ⟨0, by decide⟩

def greatest : Span := ⟨bound - 1, by decide⟩

/-- Whole milliseconds. -/
def millis (s : Span) : Nat := s.nanos / nanosPerMilli

/-- Whole seconds and the nanoseconds beyond them. -/
def parts (s : Span) : Nat × Nat := (s.nanos / nanosPerSecond, s.nanos % nanosPerSecond)

/-- Twice the span, or the greatest. -/
def double (s : Span) : Span := ofNanos (s.nanos * 2)

instance : LE Span := ⟨fun s t => s.nanos ≤ t.nanos⟩

instance : LT Span := ⟨fun s t => s.nanos < t.nanos⟩

instance (s t : Span) : Decidable (s ≤ t) := inferInstanceAs (Decidable (s.nanos ≤ t.nanos))

instance (s t : Span) : Decidable (s < t) := inferInstanceAs (Decidable (s.nanos < t.nanos))

theorem nanos_ofNanos (n : Nat) : (ofNanos n).nanos = min n (bound - 1) := by
  have : 0 < bound := by decide
  unfold ofNanos
  split
  · simp only; omega
  · simp only; omega

/-- **A double is exact, or the greatest span.** -/
theorem nanos_double (s : Span) : s.double.nanos = min (s.nanos * 2) (bound - 1) :=
  nanos_ofNanos _

end Span

end Replica
