/-
# When the delays run out

Delays are asked for and the backoff is reset, in any order.  **The delay that so many calls since
the last reset come before is the unit doubled so many times, up to the greatest span; past the cap
there is none until the next reset** (`next_after`).  Without resets the calls are refused in the
end, after as many delays as the quotient of cap and unit has binary digits
(`refused_iff_size_le`), unless doubling does not lead past the cap: when the unit is zero, or the
cap is the greatest span (`exists_refused_iff`).
-/

import Mathlib.Algebra.Group.Nat.Defs
import Mathlib.Data.List.DropRight
import Mathlib.Data.Nat.Size
import Replica.Proofs.Delays

namespace Replica

/-! ## 1. Spans that were doubled -/

namespace Span

theorem le_greatest (s : Span) : s ≤ greatest := Nat.le_sub_one_of_lt s.lt_bound

theorem not_lt_iff {s t : Span} : ¬ s < t ↔ t ≤ s := Nat.not_lt

theorem not_pos_iff {s : Span} : ¬ zero < s ↔ s = zero := by
  constructor
  · intro h
    exact eq_of_nanos_eq (Nat.eq_zero_of_not_pos h)
  · rintro rfl
    exact Nat.lt_irrefl 0

theorem not_lt_greatest_iff {s : Span} : ¬ s < greatest ↔ s = greatest := by
  constructor
  · intro h
    exact eq_of_nanos_eq (Nat.le_antisymm (le_greatest s) (not_lt_iff.1 h))
  · rintro rfl
    exact Nat.lt_irrefl _

theorem nanos_doubled (s : Span) (times : Nat) :
    (s.doubled times).nanos = min (s.nanos * 2 ^ times) greatest.nanos :=
  nanos_ofNanos _

theorem le_double (s : Span) : s ≤ s.double := by
  have hle : s.nanos ≤ greatest.nanos := le_greatest s
  have hdouble : s.double.nanos = min (s.nanos * 2) greatest.nanos := nanos_double s
  show s.nanos ≤ s.double.nanos
  omega

/-- **A span passes a cap below the greatest span when its doublings outnumber the binary digits
of how often it fits into the cap**, and not before. -/
theorem lt_doubled_iff {unit cap : Span} (hunit : zero < unit) (hcap : cap < greatest) (n : Nat) :
    cap < unit.doubled n ↔ (cap.nanos / unit.nanos).size ≤ n := by
  have hpos : 0 < unit.nanos := hunit
  have hbelow : cap.nanos < greatest.nanos := hcap
  calc cap < unit.doubled n
      ↔ cap.nanos < min (unit.nanos * 2 ^ n) greatest.nanos := by
        rw [← nanos_doubled]
        exact Iff.rfl
    _ ↔ cap.nanos < 2 ^ n * unit.nanos := by
        rw [Nat.lt_min, Nat.mul_comm]
        exact and_iff_left hbelow
    _ ↔ cap.nanos / unit.nanos < 2 ^ n := (Nat.div_lt_iff_lt_mul hpos).symm
    _ ↔ (cap.nanos / unit.nanos).size ≤ n := Nat.size_le.symm

/-- Doubling leads nowhere from zero, and nothing leads past the greatest span. -/
theorem pos_and_below_of_lt_doubled {unit cap : Span} {n : Nat} (h : cap < unit.doubled n) :
    zero < unit ∧ cap < greatest := by
  have hlt : cap.nanos < min (unit.nanos * 2 ^ n) greatest.nanos := by
    rw [← nanos_doubled]
    exact h
  obtain ⟨hproduct, hbelow⟩ := Nat.lt_min.1 hlt
  exact ⟨Nat.pos_of_mul_pos_right (Nat.zero_lt_of_lt hproduct), hbelow⟩

end Span

namespace Backoff

/-! ## 2. What is done -/

/-- What is done with a backoff. -/
inductive Act where
  /-- A delay is asked for. -/
  | next
  | reset
deriving DecidableEq

def turn (b : Backoff) : Act → Backoff
  | .next => b.next.2
  | .reset => b.reset

def after (b : Backoff) (acts : List Act) : Backoff := acts.foldl turn b

/-- How many delays were asked for since the last reset, or at all. -/
def sinceReset (acts : List Act) : Nat := (acts.rtakeWhile (· ≠ .reset)).length

theorem after_concat (b : Backoff) (acts : List Act) (a : Act) :
    b.after (acts ++ [a]) = (b.after acts).turn a := List.foldl_concat ..

theorem after_append (b : Backoff) (acts acts' : List Act) :
    b.after (acts ++ acts') = (b.after acts).after acts' := List.foldl_append

theorem sinceReset_concat_next (acts : List Act) :
    sinceReset (acts ++ [.next]) = sinceReset acts + 1 := by
  rw [sinceReset, List.rtakeWhile_concat_pos _ _ _ (by decide), List.length_append]
  rfl

theorem sinceReset_concat_reset (acts : List Act) : sinceReset (acts ++ [.reset]) = 0 := by
  rw [sinceReset, List.rtakeWhile_concat_neg _ _ _ (by decide)]
  rfl

theorem sinceReset_replicate (n : Nat) : sinceReset (List.replicate n .next) = n := by
  induction n with
  | zero => rfl
  | succ n ih => rw [List.replicate_succ', sinceReset_concat_next, ih]

/-! ## 3. Where a backoff stands -/

variable {b : Backoff} {unit cap : Span} {calls : Nat}

/-- A backoff that so many delays were asked of since it was at its unit.  Its delay was doubled
each time, or it has passed the cap on the way and stands still since. -/
structure Asked (b : Backoff) (unit cap : Span) (calls : Nat) : Prop where
  unit_eq : b.unit = unit
  cap_eq : b.cap = cap
  due_eq : b.due = unit.doubled calls ∨ cap < b.due ∧ b.due ≤ unit.doubled calls

theorem asked_new (unit cap : Span) : (new unit cap).Asked unit cap 0 :=
  ⟨rfl, rfl, Or.inl (Span.doubled_zero unit).symm⟩

theorem Asked.reset (h : b.Asked unit cap calls) : b.reset.Asked unit cap 0 where
  unit_eq := h.unit_eq
  cap_eq := h.cap_eq
  due_eq := by
    left
    rw [Span.doubled_zero]
    exact h.unit_eq

/-- The delay that is due is past the cap just when the unit doubled with each call is. -/
theorem Asked.lt_due_iff (h : b.Asked unit cap calls) :
    b.cap < b.due ↔ cap < unit.doubled calls := by
  rw [h.cap_eq]
  rcases h.due_eq with hdue | ⟨hlt, hle⟩
  · rw [hdue]
  · constructor
    · intro _
      exact Nat.lt_of_lt_of_le hlt hle
    · intro _
      exact hlt

theorem Asked.next (h : b.Asked unit cap calls) : b.next.2.Asked unit cap (calls + 1) := by
  have hgrown : unit.doubled calls ≤ unit.doubled (calls + 1) := by
    rw [Span.doubled_succ]
    exact Span.le_double _
  by_cases hpast : b.cap < b.due
  · -- refused: the backoff is as it was, and one more call only lets the doubled unit grow
    rw [next_of_lt hpast]
    refine ⟨h.unit_eq, h.cap_eq, Or.inr ⟨?_, ?_⟩⟩
    · rw [← h.cap_eq]
      exact hpast
    · rcases h.due_eq with hdue | ⟨-, hle⟩
      · rw [hdue]
        exact hgrown
      · exact Nat.le_trans hle hgrown
  · rw [next_of_not_lt hpast]
    refine ⟨h.unit_eq, h.cap_eq, Or.inl ?_⟩
    rcases h.due_eq with hdue | ⟨hlt, -⟩
    · rw [Span.doubled_succ, ← hdue]
    · exact absurd hlt (by rwa [← h.cap_eq])

/-- **The answer to the next call**: the unit doubled with each call, unless that is past the
cap. -/
theorem Asked.answer (h : b.Asked unit cap calls) :
    b.next.1 = if unit.doubled calls ≤ cap then some (unit.doubled calls) else none := by
  by_cases hpast : b.cap < b.due
  · have hlt : cap < unit.doubled calls := h.lt_due_iff.1 hpast
    have hnot : ¬ unit.doubled calls ≤ cap := Nat.not_le.2 hlt
    rw [next_of_lt hpast, if_neg hnot]
  · have hnot : ¬ cap < unit.doubled calls := fun hlt => hpast (h.lt_due_iff.2 hlt)
    have hdue : b.due = unit.doubled calls := by
      rcases h.due_eq with hdue | ⟨hlt, hle⟩
      · exact hdue
      · exact absurd (Nat.lt_of_lt_of_le hlt hle) hnot
    rw [next_of_not_lt hpast, if_pos (Span.not_lt_iff.1 hnot), hdue]

/-- However delays are asked for and the backoff is reset, only the calls since the last reset
count. -/
theorem asked_after (unit cap : Span) (acts : List Act) :
    ((new unit cap).after acts).Asked unit cap (sinceReset acts) := by
  induction acts using List.reverseRecOn with
  | nil => exact asked_new unit cap
  | append_singleton acts a ih =>
    rw [after_concat]
    cases a with
    | next =>
      rw [sinceReset_concat_next]
      exact ih.next
    | reset =>
      rw [sinceReset_concat_reset]
      exact ih.reset

theorem next_after (unit cap : Span) (acts : List Act) :
    ((new unit cap).after acts).next.1 =
      if unit.doubled (sinceReset acts) ≤ cap then some (unit.doubled (sinceReset acts))
      else none :=
  (asked_after unit cap acts).answer

/-! ## 4. Refusals -/

/-- A backoff that refuses stays as it is while it is not reset. -/
theorem after_of_refused (h : b.next.1 = none) {acts : List Act} (hreset : .reset ∉ acts) :
    b.after acts = b := by
  induction acts with
  | nil => rfl
  | cons a acts ih =>
    have hrest : .reset ∉ acts := fun hmem => hreset (List.mem_cons_of_mem a hmem)
    cases a with
    | next =>
      show b.next.2.after acts = b
      rw [next_of_none h]
      exact ih hrest
    | reset => exact absurd List.mem_cons_self hreset

theorem refused_iff (unit cap : Span) (n : Nat) :
    ((new unit cap).after (List.replicate n .next)).next.1 = none ↔ cap < unit.doubled n := by
  rw [next_after, sinceReset_replicate, ite_eq_right_iff, imp_iff_not (Option.some_ne_none _)]
  exact Nat.not_le

/-- **As many delays are handed out as the quotient of cap and unit has binary digits.** -/
theorem refused_iff_size_le {unit cap : Span} (hunit : Span.zero < unit)
    (hcap : cap < Span.greatest) (n : Nat) :
    ((new unit cap).after (List.replicate n .next)).next.1 = none ↔
      (cap.nanos / unit.nanos).size ≤ n := by
  rw [refused_iff, Span.lt_doubled_iff hunit hcap]

/-- **The calls are refused in the end if there is something to double and something past the
cap**, and only then. -/
theorem exists_refused_iff (unit cap : Span) :
    (∃ n, ((new unit cap).after (List.replicate n .next)).next.1 = none) ↔
      Span.zero < unit ∧ cap < Span.greatest := by
  constructor
  · rintro ⟨n, hn⟩
    exact Span.pos_and_below_of_lt_doubled ((refused_iff unit cap n).1 hn)
  · rintro ⟨hunit, hcap⟩
    exact ⟨(cap.nanos / unit.nanos).size, (refused_iff_size_le hunit hcap _).2 (Nat.le_refl _)⟩

/-- **Delays double exactly, up to the greatest span, until they pass the cap**, whatever was done
before; a refusal lasts until the next reset; and without resets there is one in the end just when
the unit is past the cap, or is not zero while the cap is not the greatest span. -/
theorem delays_double_until_cap (unit cap : Span) :
    (∀ acts, let delay := unit.doubled (sinceReset acts)
      delay.nanos = min (unit.nanos * 2 ^ sinceReset acts) Span.greatest.nanos ∧
      ((new unit cap).after acts).next.1 = if delay ≤ cap then some delay else none) ∧
    (∀ acts later, ((new unit cap).after acts).next.1 = none → .reset ∉ later →
      ((new unit cap).after (acts ++ .next :: later)).next.1 = none) ∧
    ((∃ n, ((new unit cap).after (List.replicate n .next)).next.1 = none) ↔
      cap < unit ∨ Span.zero < unit ∧ cap < Span.greatest) ∧
    ((∀ n, ((new unit cap).after (List.replicate n .next)).next.1 ≠ none) ↔
      unit = Span.zero ∨ cap = Span.greatest) := by
  refine ⟨?_, ?_, ?_, ?_⟩
  · intro acts delay
    exact ⟨Span.nanos_doubled _ _, next_after unit cap acts⟩
  · intro acts later hnone hreset
    have hlater : .reset ∉ .next :: later := by simpa using hreset
    rw [after_append, after_of_refused hnone hlater]
    exact hnone
  · rw [exists_refused_iff]
    constructor
    · exact Or.inr
    · rintro (hpast | hboth)
      · have hle : unit.nanos ≤ Span.greatest.nanos := Span.le_greatest unit
        exact ⟨Nat.zero_lt_of_lt hpast, Nat.lt_of_lt_of_le hpast hle⟩
      · exact hboth
  · rw [← not_exists, exists_refused_iff, not_and_or, Span.not_pos_iff, Span.not_lt_greatest_iff]

/-- A second that is doubled up to eight of them, with a reset on the way and refused in the end. -/
def upToEight : List Act := [.next, .next, .reset, .next, .next, .next, .next]

theorem delays_double_until_cap_upToEight :
    ((new (.ofSeconds 1) (.ofSeconds 8)).after (upToEight.take 6)).next.1 = some (.ofSeconds 8) ∧
    ((new (.ofSeconds 1) (.ofSeconds 8)).after upToEight).next.1 = none ∧
    ((new (.ofSeconds 1) (.ofSeconds 8)).after (upToEight ++ [.next, .next])).next.1 = none ∧
    ((new (.ofSeconds 10000000000000000000) .greatest).after [.next]).next.1 = some .greatest ∧
    (∀ n, ((new (.ofSeconds 1) .greatest).after (List.replicate n .next)).next.1 ≠ none) := by
  obtain ⟨hdelay, hlasting, -⟩ := delays_double_until_cap (.ofSeconds 1) (.ofSeconds 8)
  obtain ⟨hgreat, -⟩ := delays_double_until_cap (.ofSeconds 10000000000000000000) .greatest
  obtain ⟨-, -, -, hnever⟩ := delays_double_until_cap (.ofSeconds 1) .greatest
  have hnone : ((new (.ofSeconds 1) (.ofSeconds 8)).after upToEight).next.1 = none :=
    (hdelay upToEight).2.trans (by decide)
  refine ⟨?_, hnone, ?_, ?_, ?_⟩
  · exact (hdelay (upToEight.take 6)).2.trans (by decide)
  · exact hlasting upToEight [.next] hnone (by decide)
  · exact (hgreat [.next]).2.trans (by decide)
  · exact hnever.2 (Or.inr rfl)

end Backoff

end Replica
