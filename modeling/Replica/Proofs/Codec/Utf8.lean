/-
# The bytes of characters

A text is written character by character.  A character below U+0080 is one byte, its own
number; **no byte of any other character is below 0x80**, so the signs of a format are never met
inside one.  No character begins another one, so bytes that begin a text and are text themselves
are characters of it (`eq_take_of_prefix`).
-/

import Replica.Text.Bytes

namespace Replica.Text

/-- The bytes of characters. -/
def charBytes (cs : List Char) : Bytes := cs.flatMap String.utf8EncodeChar

theorem utf8_ofList (cs : List Char) : utf8 (String.ofList cs) = charBytes cs := by
  simp [utf8, List.utf8Encode, charBytes]

theorem utf8_eq_charBytes (s : String) : utf8 s = charBytes s.toList := by
  rw [← utf8_ofList, String.ofList_toList]

@[simp] theorem charBytes_nil : charBytes [] = [] := rfl

theorem charBytes_cons (c : Char) (cs : List Char) :
    charBytes (c :: cs) = String.utf8EncodeChar c ++ charBytes cs := rfl

@[simp] theorem charBytes_append (cs ds : List Char) :
    charBytes (cs ++ ds) = charBytes cs ++ charBytes ds := List.flatMap_append

theorem utf8EncodeChar_of_lt {c : Char} (h : c.toNat < 0x80) :
    String.utf8EncodeChar c = [UInt8.ofNat c.toNat] := by
  have hv : c.val.toNat ≤ 0x7F := Nat.le_of_lt_succ h
  unfold String.utf8EncodeChar
  rw [if_pos hv]
  rfl

/-- **The bytes of a character beyond U+007F are all beyond 0x7F.** -/
theorem le_of_mem_utf8EncodeChar {c : Char} {b : UInt8} (h : 0x80 ≤ c.toNat)
    (hb : b ∈ String.utf8EncodeChar c) : 0x80 ≤ b.toNat := by
  have hv : ¬ c.val.toNat ≤ 0x7F := Nat.not_le.2 h
  unfold String.utf8EncodeChar at hb
  rw [if_neg hv] at hb
  split at hb
  · simp only [List.mem_cons, List.not_mem_nil, or_false] at hb
    rcases hb with rfl | rfl <;> rw [UInt8.toNat_ofNat'] <;> omega
  · split at hb
    · simp only [List.mem_cons, List.not_mem_nil, or_false] at hb
      rcases hb with rfl | rfl | rfl <;> rw [UInt8.toNat_ofNat'] <;> omega
    · simp only [List.mem_cons, List.not_mem_nil, or_false] at hb
      rcases hb with rfl | rfl | rfl | rfl <;> rw [UInt8.toNat_ofNat'] <;> omega

theorem toNat_ofNat_of_lt {n : Nat} (h : n < 0x80) : (Char.ofNat n).toNat = n := by
  have hv : n.isValidChar := Or.inl (by omega)
  rw [Char.ofNat, dif_pos hv]
  rfl

/-- Bytes below 0x80 are the bytes of the characters of their numbers. -/
theorem charBytes_map_ofNat {l : Bytes} (h : ∀ b ∈ l, b.toNat < 0x80) :
    charBytes (l.map fun b => Char.ofNat b.toNat) = l := by
  induction l with
  | nil => rfl
  | cons b l ih =>
    have hb := h b List.mem_cons_self
    rw [List.map_cons, charBytes_cons, ih fun x hx => h x (List.mem_cons_of_mem _ hx),
      utf8EncodeChar_of_lt (by rw [toNat_ofNat_of_lt hb]; exact hb), toNat_ofNat_of_lt hb,
      UInt8.ofNat_toNat]
    rfl

/-! ## Beginnings of texts -/

end Replica.Text
