/-
# When two stamps are equal

A ticker asks a clock for every stamp.  Nothing is said of the clock but that its readings fit: it
may stand still, jump and go back.  What holds of all runs of all tickers:

* **a stamp is computed exactly, and its parts are the reading it was made at, the node of its
  ticker and how many stamps the ticker has made, modulo 1000** (`exact_issued`, `parts_issued`);
* stamps are ordered as these parts are (`lt_iff_before`), so **tickers of two nodes never make
  the same stamp** (`issued_ne_issued`);
* **a ticker makes a stamp again at the same reading only, and there behind every thousandth
  other** (`issued_eq_issued_iff`), and its next stamp is greater unless the clock went back or
  the count did (`issued_lt_issued_succ_iff`).

So a thousand stamps of one reading are told apart and one more is not, and of those thousand all
but the one with the count 0 come in ascending order.  `stamps_told_apart` says all of it at once,
and of the parts of a version that no ticker made that they make it up again.
-/

import Replica.Proofs.Stamps

namespace Replica

/-! ## 1. The order of parts -/

namespace Version

/-- The order of parts: by reading, then by node, then by count. -/
def Before (p q : Int64 × Int64 × Int64) : Prop :=
  p.1 < q.1 ∨ (p.1 = q.1 ∧ (p.2.1 < q.2.1 ∨ (p.2.1 = q.2.1 ∧ p.2.2 < q.2.2)))

/-- Versions with the same parts are equal, whatever they are. -/
theorem eq_iff_parts_eq {v w : Version} : v = w ↔ v.parts = w.parts := by
  constructor
  · intro h
    rw [h]
  · intro h
    rw [← ofParts_parts v, ← ofParts_parts w, h]

end Version

/-! ## 2. A ticker at a clock -/

namespace Ticker

/-- The ticker behind `n` stamps; for the `i`-th of them, counted from 0, the clock reads
`clock i`. -/
def after (t : Ticker) (clock : Nat → Int64) : Nat → Ticker
  | 0 => t
  | n + 1 => ((t.after clock n).next (clock n)).2

/-- The stamp that is made behind `n` others. -/
def issued (t : Ticker) (clock : Nat → Int64) (n : Nat) : Version :=
  ((t.after clock n).next (clock n)).1

section Run

variable {t t' : Ticker} {clock clock' : Nat → Int64}

/-- What the clock read before leaves nothing behind in a ticker but how often it was read. -/
theorem stampAt_after (t : Ticker) (clock : Nat → Int64) (n i : Nat) (later : Int64) :
    (t.after clock n).stampAt i later = t.stampAt (n + i) later := by
  induction n generalizing i with
  | zero => rw [after, Nat.zero_add]
  | succ n ih =>
    rw [after, stampAt_next, ih]
    congr 1
    omega

theorem issued_eq (t : Ticker) (clock : Nat → Int64) (n : Nat) :
    t.issued clock n = t.stampAt n (clock n) := by
  unfold issued
  rw [next_eq, stampAt_after, Nat.add_zero]

theorem parts_issued (hclock : ∀ i, Version.Fits (clock i)) (n : Nat) :
    (t.issued clock n).parts =
      (clock n, Int64.ofNat t.node, Int64.ofNat (t.countAt n)) := by
  rw [issued_eq]
  exact parts_stampAt t n (hclock n)

theorem exact_issued (hclock : ∀ i, Version.Fits (clock i)) (n : Nat) :
    Version.Exact (clock n) (Int64.ofNat t.node) (Int64.ofNat (t.countAt n)) :=
  Version.exact_of_fits (hclock n) t.node.isLt (t.countAt_lt n)

/-- **Stamps compare as their parts do**, also those of two tickers at two clocks. -/
theorem lt_iff_before (hclock : ∀ i, Version.Fits (clock i))
    (hclock' : ∀ i, Version.Fits (clock' i)) (m n : Nat) :
    t.issued clock m < t'.issued clock' n ↔
      Version.Before (t.issued clock m).parts (t'.issued clock' n).parts := by
  have hlt := Version.ofNat_lt_ofNat_iff t.node.isLt t'.node.isLt
  have hcount := Version.ofNat_lt_ofNat_iff (t.countAt_lt m) (t'.countAt_lt n)
  have heq := Version.ofNat_eq_ofNat_iff t.node.isLt t'.node.isLt
  unfold Version.Before
  rw [parts_issued hclock, parts_issued hclock', issued_eq, issued_eq, hlt, hcount, heq]
  exact Version.ofParts_lt_ofParts_iff (hclock m) t.node.isLt (t.countAt_lt m) (hclock' n)
    t'.node.isLt (t'.countAt_lt n)

/-- **Tickers of two nodes never make the same stamp.** -/
theorem issued_ne_issued (hnode : t.node ≠ t'.node) (hclock : ∀ i, Version.Fits (clock i))
    (hclock' : ∀ i, Version.Fits (clock' i)) (m n : Nat) :
    t.issued clock m ≠ t'.issued clock' n := by
  intro h
  have hparts := Version.eq_iff_parts_eq.1 h
  rw [parts_issued hclock, parts_issued hclock', Prod.mk.injEq, Prod.mk.injEq] at hparts
  obtain ⟨-, hsame, -⟩ := hparts
  exact hnode (Fin.ext ((Version.ofNat_eq_ofNat_iff t.node.isLt t'.node.isLt).1 hsame))

theorem countAt_eq_iff (t : Ticker) {i j : Nat} (h : i < j) :
    t.countAt i = t.countAt j ↔ 1000 ∣ j - i := by
  unfold countAt
  omega

/-- **Two stamps of a ticker are equal just if their readings are and a multiple of a thousand
calls lies between them.** -/
theorem issued_eq_issued_iff (hclock : ∀ i, Version.Fits (clock i)) {i j : Nat} (h : i < j) :
    t.issued clock i = t.issued clock j ↔ clock i = clock j ∧ 1000 ∣ j - i := by
  have hcount := Version.ofNat_eq_ofNat_iff (t.countAt_lt i) (t.countAt_lt j)
  rw [Version.eq_iff_parts_eq, parts_issued hclock, parts_issued hclock, Prod.mk.injEq,
    Prod.mk.injEq, hcount, t.countAt_eq_iff h]
  simp only [true_and]

/-- **The next stamp is greater just if the clock went on, or stood still and the count did not
return to 0.** -/
theorem issued_lt_issued_succ_iff (hclock : ∀ i, Version.Fits (clock i)) (i : Nat) :
    t.issued clock i < t.issued clock (i + 1) ↔
      clock i < clock (i + 1) ∨ (clock i = clock (i + 1) ∧ t.countAt (i + 1) ≠ 0) := by
  have hcount : t.countAt i < t.countAt (i + 1) ↔ t.countAt (i + 1) ≠ 0 := by
    unfold countAt
    omega
  rw [issued_eq, issued_eq, stampAt_lt_stampAt_iff t (hclock i) (hclock (i + 1)), hcount]

end Run

/-! ## 3. The tickers of node numbers -/

theorem ofNode?_of_lt {id : UInt32} (h : id.toNat < 1000) :
    ofNode? id = some (.new ⟨id.toNat, h⟩) := dif_pos h

theorem countAt_new (node : Fin 1000) (n : Nat) : (new node).countAt n = (n + 1) % 1000 := by
  unfold countAt new
  rw [Fin.val_zero, Nat.zero_add]

/-- **What stamps say and where they are equal.**  Two node numbers below 1000 have tickers, and
at clocks that fit, the `n`-th stamp (from 0) is computed without an overflow and its parts are
the `n`-th reading, the node number and `n + 1` modulo 1000; stamps of both tickers are ordered as
their parts are and equal where these are; those of two nodes never are, and of one node just at
equal readings and a multiple of a thousand calls apart; the next is greater just if the clock went
on, or stood still while the count did not return to 0.  The parts of every version, of a negative
one too, make it up again. -/
theorem stamps_told_apart {id id' : UInt32} (hid : id.toNat < 1000) (hid' : id'.toNat < 1000)
    {clock clock' : Nat → Int64} (hclock : ∀ i, Version.Fits (clock i))
    (hclock' : ∀ i, Version.Fits (clock' i)) :
    ∃ t t', ofNode? id = some t ∧ ofNode? id' = some t' ∧
      (∀ n,
        t.issued clock n = Version.ofParts (clock n) (Int64.ofNat id.toNat)
            (Int64.ofNat ((n + 1) % 1000)) ∧
          Version.Exact (clock n) (Int64.ofNat id.toNat) (Int64.ofNat ((n + 1) % 1000)) ∧
          (t.issued clock n).parts =
            (clock n, Int64.ofNat id.toNat, Int64.ofNat ((n + 1) % 1000))) ∧
      (∀ m n,
        (t.issued clock m < t'.issued clock' n ↔
            Version.Before (t.issued clock m).parts (t'.issued clock' n).parts) ∧
          (t.issued clock m = t'.issued clock' n ↔
            (t.issued clock m).parts = (t'.issued clock' n).parts)) ∧
      (id ≠ id' → ∀ m n, t.issued clock m ≠ t'.issued clock' n) ∧
      (∀ i j, i < j →
        (t.issued clock i = t.issued clock j ↔ clock i = clock j ∧ 1000 ∣ j - i)) ∧
      (∀ i, t.issued clock i < t.issued clock (i + 1) ↔
        clock i < clock (i + 1) ∨ (clock i = clock (i + 1) ∧ ¬ 1000 ∣ i + 2)) ∧
      ∀ v : Version,
        Version.Exact v.parts.1 v.parts.2.1 v.parts.2.2 ∧
          v.parts.1.toInt * 1000000 + v.parts.2.1.toInt * 1000 + v.parts.2.2.toInt = v.toInt := by
  refine ⟨.new ⟨id.toNat, hid⟩, .new ⟨id'.toNat, hid'⟩, ofNode?_of_lt hid, ofNode?_of_lt hid',
    ?_, ?_, ?_, ?_, ?_, ?_⟩
  · intro n
    have hparts := parts_issued (t := .new ⟨id.toNat, hid⟩) hclock n
    have hexact := exact_issued (t := .new ⟨id.toNat, hid⟩) hclock n
    have hstamp := issued_eq (.new ⟨id.toNat, hid⟩) clock n
    unfold stampAt at hstamp
    rw [countAt_new] at hparts hexact hstamp
    exact ⟨hstamp, hexact, hparts⟩
  · intro m n
    exact ⟨lt_iff_before hclock hclock' m n, Version.eq_iff_parts_eq⟩
  · intro hne
    refine issued_ne_issued ?_ hclock hclock'
    intro hsame
    exact hne (UInt32.toNat_inj.1 (Fin.mk.inj hsame))
  · intro i j h
    exact issued_eq_issued_iff hclock h
  · intro i
    rw [issued_lt_issued_succ_iff hclock i, countAt_new, ne_eq, ← Nat.dvd_iff_mod_eq_zero]
  · intro v
    exact ⟨Version.exact_parts v, Version.parts_sum v⟩

/-- Two nodes at a clock that stands still: behind a thousand stamps the first comes again, and
the one before it, with the count 0, is the smallest of all. -/
theorem stamps_told_apart_frozen :
    ∃ t t', ofNode? 7 = some t ∧ ofNode? 999 = some t' ∧
      t.issued (fun _ => 1700000000000) 0 = t.issued (fun _ => 1700000000000) 1000 ∧
      ¬ t.issued (fun _ => 1700000000000) 998 < t.issued (fun _ => 1700000000000) 999 ∧
      (∀ m n, t.issued (fun _ => 1700000000000) m ≠ t'.issued (fun _ => 9223372036853) n) ∧
      (t.issued (fun _ => 1700000000000) 1000).parts = (1700000000000, 7, 1) := by
  have h7 : (7 : UInt32).toNat < 1000 := by decide
  have h999 : (999 : UInt32).toNat < 1000 := by decide
  have hclock : ∀ _ : Nat, Version.Fits 1700000000000 := fun _ => by decide
  have hclock' : ∀ _ : Nat, Version.Fits 9223372036853 := fun _ => by decide
  obtain ⟨t, t', ht, ht', hparts, -, hnodes, hagain, hnext, -⟩ :=
    stamps_told_apart h7 h999 hclock hclock'
  refine ⟨t, t', ht, ht', ?_, ?_, ?_, ?_⟩
  · exact (hagain 0 1000 (by decide)).2 ⟨rfl, by decide⟩
  · intro h
    exact absurd ((hnext 998).1 h) (by decide)
  · exact hnodes (by decide)
  · exact (hparts 1000).2.2

end Ticker
end Replica
