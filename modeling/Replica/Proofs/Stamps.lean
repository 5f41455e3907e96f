/-
# The order of stamps

A stamp of a clock reading that is not negative and small enough is the plain number
`millis * 1000000 + node * 1000 + count`, so its three parts can be read off it
(`parts_ofParts`) and **stamps compare as their parts do, one after another**
(`ofParts_lt_ofParts_iff`).  The count goes from stamp to stamp, not from millisecond to
millisecond: the `i`-th stamp of a ticker carries its count modulo 1000 (`Ticker.stampAt`).

The other way no bound is needed: **the parts of any version, of a negative one too, make it up
again without an overflow** (`exact_parts`), though they need not be those of a ticker.
-/

import Mathlib.Tactic.Ring
import Replica.Version

namespace Replica

namespace Version

/-! ## 1. No overflow -/

theorem toInt_add_of_bounds {a b : Int64} (hl : -9223372036854775808 ≤ a.toInt + b.toInt)
    (hu : a.toInt + b.toInt < 9223372036854775808) : (a + b).toInt = a.toInt + b.toInt := by
  rw [Int64.toInt_add, Int.bmod_eq_of_le (by omega) (by omega)]

theorem toInt_mul_of_bounds {a b : Int64} (hl : -9223372036854775808 ≤ a.toInt * b.toInt)
    (hu : a.toInt * b.toInt < 9223372036854775808) : (a * b).toInt = a.toInt * b.toInt := by
  rw [Int64.toInt_mul, Int.bmod_eq_of_le (by omega) (by omega)]

/-- The readings of the clock whose stamps fit. -/
def Fits (millis : Int64) : Prop := 0 ≤ millis.toInt ∧ millis.toInt ≤ 9223372036853

instance (millis : Int64) : Decidable (Fits millis) := inferInstanceAs (Decidable (_ ∧ _))

theorem toInt_ofNat_of_lt_thousand {n : Nat} (h : n < 1000) : (Int64.ofNat n).toInt = n :=
  Int64.toInt_ofNat_of_lt (by omega)

theorem ofNat_lt_ofNat_iff {a b : Nat} (ha : a < 1000) (hb : b < 1000) :
    Int64.ofNat a < Int64.ofNat b ↔ a < b := by
  rw [Int64.lt_iff_toInt_lt, toInt_ofNat_of_lt_thousand ha, toInt_ofNat_of_lt_thousand hb,
    Int.ofNat_lt]

theorem ofNat_eq_ofNat_iff {a b : Nat} (ha : a < 1000) (hb : b < 1000) :
    Int64.ofNat a = Int64.ofNat b ↔ a = b := by
  rw [← Int64.toInt_inj, toInt_ofNat_of_lt_thousand ha, toInt_ofNat_of_lt_thousand hb,
    Int.ofNat_inj]

theorem toInt_million : (1000000 : Int64).toInt = 1000000 := by decide

theorem toInt_thousand : (1000 : Int64).toInt = 1000 := by decide

/-- **No overflow on the way to a stamp**: every product and every sum is the integer it is meant
to be. -/
structure Exact (millis node count : Int64) : Prop where
  millisPart : (millis * 1000000).toInt = millis.toInt * 1000000
  nodePart : (node * 1000).toInt = node.toInt * 1000
  firstSum : (millis * 1000000 + node * 1000).toInt = millis.toInt * 1000000 + node.toInt * 1000
  whole : (ofParts millis node count).toInt =
    millis.toInt * 1000000 + node.toInt * 1000 + count.toInt

/-- The integers are asked after in the order in which they are made; the product for a node is
small on its own. -/
theorem exact_of_bounds {millis node count : Int64}
    (hmillis : -9223372036854775808 ≤ millis.toInt * 1000000 ∧
      millis.toInt * 1000000 < 9223372036854775808)
    (hnode : -1000 < node.toInt ∧ node.toInt < 1000)
    (hsum : -9223372036854775808 ≤ millis.toInt * 1000000 + node.toInt * 1000 ∧
      millis.toInt * 1000000 + node.toInt * 1000 < 9223372036854775808)
    (hwhole : -9223372036854775808 ≤ millis.toInt * 1000000 + node.toInt * 1000 + count.toInt ∧
      millis.toInt * 1000000 + node.toInt * 1000 + count.toInt < 9223372036854775808) :
    Exact millis node count := by
  have h1 : (millis * 1000000).toInt = millis.toInt * 1000000 := by
    rw [toInt_mul_of_bounds, toInt_million] <;> rw [toInt_million] <;> omega
  have h2 : (node * 1000).toInt = node.toInt * 1000 := by
    rw [toInt_mul_of_bounds, toInt_thousand] <;> rw [toInt_thousand] <;> omega
  have h3 : (millis * 1000000 + node * 1000).toInt =
      millis.toInt * 1000000 + node.toInt * 1000 := by
    rw [toInt_add_of_bounds, h1, h2] <;> rw [h1, h2] <;> omega
  refine ⟨h1, h2, h3, ?_⟩
  unfold ofParts
  rw [toInt_add_of_bounds, h3] <;> rw [h3] <;> omega

section Fits

variable {m m' : Int64} {node node' count count' : Nat}

/-- **A stamp that fits overflows nowhere on the way.** -/
theorem exact_of_fits (hm : Fits m) (hn : node < 1000) (hc : count < 1000) :
    Exact m (Int64.ofNat node) (Int64.ofNat count) := by
  obtain ⟨h0, h1⟩ := hm
  have hnode := toInt_ofNat_of_lt_thousand hn
  have hcount := toInt_ofNat_of_lt_thousand hc
  refine exact_of_bounds ?_ ?_ ?_ ?_
  · omega
  · omega
  · omega
  · omega

/-- **A stamp that fits is the number it stands for.** -/
theorem toInt_ofParts (hm : Fits m) (hn : node < 1000) (hc : count < 1000) :
    (ofParts m (Int64.ofNat node) (Int64.ofNat count)).toInt =
      m.toInt * 1000000 + node * 1000 + count := by
  rw [(exact_of_fits hm hn hc).whole, toInt_ofNat_of_lt_thousand hn,
    toInt_ofNat_of_lt_thousand hc]

/-! ## 2. Parts and order -/

theorem toInt_div_of_nonneg {a b : Int64} (ha : 0 ≤ a.toInt) (hb : 0 < b.toInt) :
    (a / b).toInt = a.toInt / b.toInt := by
  have hlt := a.toInt_lt
  have hle : a.toInt / b.toInt ≤ a.toInt := Int.ediv_le_self _ ha
  have hnn : 0 ≤ a.toInt / b.toInt := Int.ediv_nonneg ha (Int.le_of_lt hb)
  rw [Int64.toInt_div, Int.tdiv_eq_ediv_of_nonneg ha, Int.bmod_eq_of_le (by omega) (by omega)]

theorem toInt_mod_of_nonneg {a b : Int64} (ha : 0 ≤ a.toInt) :
    (a % b).toInt = a.toInt % b.toInt := by
  rw [Int64.toInt_mod, Int.tmod_eq_emod_of_nonneg ha]

/-- **The parts of a stamp that fits.** -/
theorem parts_ofParts (hm : Fits m) (hn : node < 1000) (hc : count < 1000) :
    (ofParts m (Int64.ofNat node) (Int64.ofNat count)).parts =
      (m, Int64.ofNat node, Int64.ofNat count) := by
  have hv := toInt_ofParts hm hn hc
  obtain ⟨h0, -⟩ := hm
  unfold parts
  generalize ofParts m (Int64.ofNat node) (Int64.ofNat count) = v at hv ⊢
  have hv0 : 0 ≤ v.toInt := by omega
  have hmod : (v % 1000000).toInt = v.toInt % 1000000 := by
    rw [toInt_mod_of_nonneg hv0, toInt_million]
  have hmillis : (v / 1000000).toInt = m.toInt := by
    rw [toInt_div_of_nonneg hv0 (by decide), toInt_million]
    omega
  have hnode : (v % 1000000 / 1000).toInt = (Int64.ofNat node).toInt := by
    rw [toInt_div_of_nonneg (by omega) (by decide), hmod, toInt_thousand,
      toInt_ofNat_of_lt_thousand hn]
    omega
  have hcount : (v % 1000).toInt = (Int64.ofNat count).toInt := by
    rw [toInt_mod_of_nonneg hv0, toInt_thousand, toInt_ofNat_of_lt_thousand hc]
    omega
  rw [Int64.toInt_inj.1 hmillis, Int64.toInt_inj.1 hnode, Int64.toInt_inj.1 hcount]

/-- **Stamps compare as their parts do**: by reading first, then by node, then by count. -/
theorem ofParts_lt_ofParts_iff (hm : Fits m) (hn : node < 1000) (hc : count < 1000)
    (hm' : Fits m') (hn' : node' < 1000) (hc' : count' < 1000) :
    ofParts m (Int64.ofNat node) (Int64.ofNat count) <
        ofParts m' (Int64.ofNat node') (Int64.ofNat count') ↔
      m < m' ∨ (m = m' ∧ (node < node' ∨ (node = node' ∧ count < count'))) := by
  rw [Int64.lt_iff_toInt_lt, Int64.lt_iff_toInt_lt, ← Int64.toInt_inj, toInt_ofParts hm hn hc,
    toInt_ofParts hm' hn' hc']
  omega

end Fits

/-! ## 3. The parts of any version

Quotients are cut toward zero, so the three parts of a negative version are those of its opposite
with the sign turned, and what is left out of it on the way is never beyond it. -/

theorem natCast_tdiv_tmod (n : Nat) :
    (n : Int).tdiv 1000000 = (n / 1000000 : Nat) ∧
      ((n : Int).tmod 1000000).tdiv 1000 = (n % 1000000 / 1000 : Nat) ∧
      (n : Int).tmod 1000 = (n % 1000 : Nat) :=
  ⟨rfl, rfl, rfl⟩

theorem tdiv_tmod_sum (x : Int) :
    x.tdiv 1000000 * 1000000 + (x.tmod 1000000).tdiv 1000 * 1000 + x.tmod 1000 = x ∧
      (x.tdiv 1000000 * 1000000).natAbs ≤ x.natAbs ∧
      ((x.tmod 1000000).tdiv 1000).natAbs < 1000 ∧
      (x.tdiv 1000000 * 1000000 + (x.tmod 1000000).tdiv 1000 * 1000).natAbs ≤ x.natAbs := by
  generalize hn : x.natAbs = n
  obtain ⟨hmillis, hnode, hcount⟩ := natCast_tdiv_tmod n
  obtain hx | hx := Int.natAbs_eq x
  · rw [hn] at hx
    rw [hx, hmillis, hnode, hcount]
    omega
  · rw [hn] at hx
    rw [hx, Int.neg_tdiv, Int.neg_tmod, Int.neg_tdiv, Int.neg_tmod, hmillis, hnode, hcount]
    omega

/-- The parts as integers; no divisor is -1, so no quotient overflows. -/
theorem toInt_parts (v : Version) :
    v.parts.1.toInt = v.toInt.tdiv 1000000 ∧
      v.parts.2.1.toInt = (v.toInt.tmod 1000000).tdiv 1000 ∧
      v.parts.2.2.toInt = v.toInt.tmod 1000 := by
  unfold parts
  refine ⟨?_, ?_, ?_⟩
  · rw [Int64.toInt_div_of_ne_right _ _ (by decide), toInt_million]
  · rw [Int64.toInt_div_of_ne_right _ _ (by decide), Int64.toInt_mod, toInt_million,
      toInt_thousand]
  · rw [Int64.toInt_mod, toInt_thousand]

/-- The integers that the parts of a version stand for make it up. -/
theorem parts_sum (v : Version) :
    v.parts.1.toInt * 1000000 + v.parts.2.1.toInt * 1000 + v.parts.2.2.toInt = v.toInt := by
  obtain ⟨hmillis, hnode, hcount⟩ := toInt_parts v
  rw [hmillis, hnode, hcount]
  exact (tdiv_tmod_sum v.toInt).1

/-- **Making a version up of its parts overflows nowhere.** -/
theorem exact_parts (v : Version) : Exact v.parts.1 v.parts.2.1 v.parts.2.2 := by
  obtain ⟨hmillis, hnode, -⟩ := toInt_parts v
  obtain ⟨-, h1, h2, h3⟩ := tdiv_tmod_sum v.toInt
  have hsum := parts_sum v
  rw [← hmillis] at h1 h3
  rw [← hnode] at h2 h3
  have hlow := v.le_toInt
  have hhigh := v.toInt_lt
  refine exact_of_bounds ?_ ?_ ?_ ?_
  · omega
  · omega
  · omega
  · omega

/-- **The parts of a version make it up.** -/
theorem ofParts_parts (v : Version) : ofParts v.parts.1 v.parts.2.1 v.parts.2.2 = v := by
  rw [← Int64.toInt_inj, (exact_parts v).whole, parts_sum]

end Version

/-! ## 4. One stamp after another -/

namespace Ticker

/-- The count of the stamp that `i` other stamps are made before. -/
def countAt (t : Ticker) (i : Nat) : Nat := (t.count + i + 1) % 1000

/-- The stamp that `i` other stamps are made before, at a reading of the clock. -/
def stampAt (t : Ticker) (i : Nat) (millis : Int64) : Version :=
  Version.ofParts millis (Int64.ofNat t.node) (Int64.ofNat (t.countAt i))

theorem countAt_lt (t : Ticker) (i : Nat) : t.countAt i < 1000 := Nat.mod_lt _ (by decide)

theorem val_count_next (t : Ticker) (millis : Int64) :
    (t.next millis).2.count.val = (t.count.val + 1) % 1000 := Fin.val_add _ _

theorem next_eq (t : Ticker) (millis : Int64) : (t.next millis).1 = t.stampAt 0 millis := by
  have h : ((t.count + 1 : Fin 1000) : Nat) = t.countAt 0 := Fin.val_add _ _
  unfold next stampAt
  rw [← h]

/-- The stamps of a ticker go on where the last one was made. -/
theorem stampAt_next (t : Ticker) (millis : Int64) (i : Nat) (later : Int64) :
    (t.next millis).2.stampAt i later = t.stampAt (i + 1) later := by
  have h : (t.next millis).2.countAt i = t.countAt (i + 1) := by
    simp only [countAt, val_count_next]
    omega
  unfold stampAt
  rw [h]
  rfl

theorem parts_stampAt (t : Ticker) (i : Nat) {millis : Int64} (h : Version.Fits millis) :
    (t.stampAt i millis).parts = (millis, Int64.ofNat t.node, Int64.ofNat (t.countAt i)) :=
  Version.parts_ofParts h t.node.isLt (t.countAt_lt i)

/-- **Of two stamps of a ticker, the one with the later reading is the greater, and of one
reading the one with the greater count.** -/
theorem stampAt_lt_stampAt_iff (t : Ticker) {i j : Nat} {m m' : Int64} (hm : Version.Fits m)
    (hm' : Version.Fits m') :
    t.stampAt i m < t.stampAt j m' ↔ m < m' ∨ (m = m' ∧ t.countAt i < t.countAt j) := by
  unfold stampAt
  rw [Version.ofParts_lt_ofParts_iff hm t.node.isLt (t.countAt_lt i) hm' t.node.isLt
    (t.countAt_lt j)]
  simp

end Ticker

end Replica
