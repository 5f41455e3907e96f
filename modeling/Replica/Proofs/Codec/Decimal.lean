/-
# Reading what was written: numbers

The digits of a number are those of its tenth and one more, and reading goes the same way
(`readDigits_natChars`).  So **every integer of 64 bits is read back from its text**
(`readInt_intChars`).
-/

import Replica.Text.Decimal

namespace Replica.Text.Decimal

/-- The digits of a number, the last one by itself. -/
theorem natChars_of_le {n : Nat} (h : 10 ≤ n) :
    natChars n = natChars (n / 10) ++ [Nat.digitChar (n % 10)] :=
  Nat.toDigits_of_base_le (by decide) h

theorem natChars_of_lt {n : Nat} (h : n < 10) : natChars n = [Nat.digitChar n] :=
  Nat.toDigits_of_lt_base h

theorem natChars_ne_nil (n : Nat) : natChars n ≠ [] := Nat.toDigits_ne_nil

/-- The characters that digits are. -/
theorem mem_natChars {n : Nat} {c : Char} (h : c ∈ natChars n) : ∃ d < 10, c = Nat.digitChar d := by
  induction n using Nat.strongRecOn with
  | ind n ih =>
    by_cases hn : n < 10
    · rw [natChars_of_lt hn, List.mem_singleton] at h
      exact ⟨n, hn, h⟩
    · rw [natChars_of_le (Nat.not_lt.1 hn), List.mem_append, List.mem_singleton] at h
      rcases h with h | h
      · exact ih _ (Nat.div_lt_self (by omega) (by decide)) h
      · exact ⟨n % 10, Nat.mod_lt _ (by decide), h⟩

theorem digit?_digitChar {d : Nat} (h : d < 10) : digit? (Nat.digitChar d) = some d := by
  have hall : ∀ d : Fin 10, digit? (Nat.digitChar d) = some d.val := by decide
  exact hall ⟨d, h⟩

theorem readDigits_append (limit : Nat) (beyond : Fault) (s t : List Char) (value : Nat) :
    readDigits limit beyond value (s ++ t) =
      (readDigits limit beyond value s).bind fun v => readDigits limit beyond v t := by
  induction s generalizing value with
  | nil => rfl
  | cons c s ih =>
    simp only [List.cons_append, readDigits]
    cases digit? c with
    | none => rfl
    | some d =>
      simp only
      split
      · exact ih _
      · rfl

/-- **Digits are read back.** -/
theorem readDigits_natChars {limit n : Nat} (beyond : Fault) (h : n ≤ limit) :
    readDigits limit beyond 0 (natChars n) = .ok n := by
  induction n using Nat.strongRecOn with
  | ind n ih =>
    by_cases hn : n < 10
    · rw [natChars_of_lt hn]
      simp [readDigits, digit?_digitChar hn, h]
    · have hlast : n % 10 < 10 := Nat.mod_lt _ (by decide)
      have hsum : n / 10 * 10 + n % 10 = n := Nat.div_add_mod' n 10
      rw [natChars_of_le (Nat.not_lt.1 hn), readDigits_append,
        ih _ (Nat.div_lt_self (by omega) (by decide)) (Nat.le_trans (Nat.div_le_self ..) h)]
      simp [Except.bind, readDigits, digit?_digitChar hlast, hsum, h]

/-- The first character of a number is no sign. -/
theorem natChars_eq_cons (n : Nat) :
    ∃ c rest, natChars n = c :: rest ∧ c ≠ '+' ∧ c ≠ '-' := by
  obtain ⟨c, rest, heq⟩ := List.exists_cons_of_ne_nil (natChars_ne_nil n)
  obtain ⟨d, hd, hc⟩ := mem_natChars (n := n) (c := c) (heq ▸ List.mem_cons_self)
  have hsign : ∀ d : Fin 10, Nat.digitChar d ≠ '+' ∧ Nat.digitChar d ≠ '-' := by decide
  exact ⟨c, rest, heq, hc ▸ (hsign ⟨d, hd⟩).1, hc ▸ (hsign ⟨d, hd⟩).2⟩

theorem intChars_ofNat (n : Nat) : intChars (.ofNat n) = natChars n := rfl

theorem intChars_negSucc (n : Nat) : intChars (.negSucc n) = '-' :: natChars (n + 1) := rfl

/-- **An integer within its bounds is read back.** -/
theorem readInt_intChars {limit : Nat} {n : Int} (hl : -(limit + 1 : Int) ≤ n) (hu : n ≤ limit) :
    readInt limit (intChars n) = .ok n := by
  cases n with
  | ofNat n =>
    have hn : n ≤ limit := Int.ofNat_le.1 hu
    obtain ⟨c, rest, heq, hplus, hminus⟩ := natChars_eq_cons n
    have hread := readDigits_natChars .tooLarge hn
    rw [intChars_ofNat]
    rw [heq] at hread ⊢
    unfold readInt
    split
    · simp_all
    · simp_all
    · simp_all
    · simp_all
    · simp_all
    · simp [hread, Except.map]
  | negSucc n =>
    have hn : n + 1 ≤ limit + 1 := by omega
    obtain ⟨c, rest, heq, -, -⟩ := natChars_eq_cons (n + 1)
    have hread := readDigits_natChars .tooSmall hn
    rw [intChars_negSucc]
    rw [heq] at hread ⊢
    simp [readInt, hread, Except.map, Int.negSucc_eq]

end Replica.Text.Decimal
