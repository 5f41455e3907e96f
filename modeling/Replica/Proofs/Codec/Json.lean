/-
# Reading what was written: JSON

The three kinds of value a snapshot is made of: strings (`readString_stringChars`), integers
(`readInt_charBytes`) and objects, whose fields are read one by one (`readFields_first`,
`readFields_next`, `readFields_end`).  Each statement is about the bytes of what was written with
anything behind them; **only a number needs to know what follows**, for it has no end of its own.
-/

import Replica.Json.Reader
import Replica.Json.Writer
import Replica.Proofs.Codec.Decimal
import Replica.Proofs.Codec.Utf8

namespace Replica.Json

open Text

/-! ## 1. Strings -/

/-- Bytes that stand for themselves in a string. -/
theorem readStringBytes_plain {l : Bytes}
    (h : ∀ b ∈ l, b ≠ quoteMark ∧ b ≠ backslash ∧ ¬ b < 0x20) (fuel : Nat) (rest : Bytes) :
    readStringBytes (l.length + fuel) (l ++ rest) =
      (readStringBytes fuel rest).map fun (m, r) => (l ++ m, r) := by
  induction l with
  | nil =>
    rw [List.length_nil, Nat.zero_add, List.nil_append]
    cases readStringBytes fuel rest <;> rfl
  | cons b l ih =>
    obtain ⟨hq, hb, hc⟩ := h b List.mem_cons_self
    have hlen : (b :: l).length + fuel = (l.length + fuel) + 1 := by
      rw [List.length_cons]
      omega
    rw [hlen, List.cons_append, readStringBytes, if_neg hq, if_neg hb, if_neg hc,
      ih fun x hx => h x (List.mem_cons_of_mem _ hx)]
    cases readStringBytes fuel rest <;> rfl

theorem readStringBytes_escape {fuel : Nat} {s x rest : Bytes} (h : readEscape s = .ok (x, rest)) :
    readStringBytes (fuel + 1) (backslash :: s) =
      (readStringBytes fuel rest).map fun (m, r) => (x ++ m, r) := by
  rw [readStringBytes, if_neg (by decide), if_pos rfl, h]
  simp only [bind, Except.bind]
  cases readStringBytes fuel rest <;> rfl

theorem utf8_singleton (c : Char) : utf8 (String.singleton c) = String.utf8EncodeChar c := by
  rw [utf8_eq_charBytes, String.toList_singleton]
  exact List.append_nil _

/-- The digits of a control character. -/
theorem readHex4_control {n : Nat} (h : n < 0x20) (rest : Bytes) :
    readHex4 (charBytes ['0', '0', hexDigit (n / 16), hexDigit (n % 16)] ++ rest) =
      .ok (n, rest) := by
  have hall : ∀ n : Fin 0x20, ∃ a b, charBytes ['0', '0', hexDigit (n / 16), hexDigit (n % 16)] =
      [0x30, 0x30, a, b] ∧ hexByteValue? a = some (n.val / 16) ∧
        hexByteValue? b = some (n.val % 16) := by
    intro n
    refine ⟨UInt8.ofNat (hexDigit (n / 16)).toNat, UInt8.ofNat (hexDigit (n % 16)).toNat, ?_⟩
    revert n
    decide
  obtain ⟨a, b, heq, ha, hb⟩ := hall ⟨n, h⟩
  have hzero : hexByteValue? 0x30 = some 0 := by decide
  rw [heq]
  simp only [List.cons_append, List.nil_append, readHex4, hzero, ha, hb]
  rw [show ((0 * 16 + 0) * 16 + n / 16) * 16 + n % 16 = n by omega]

/-- What is written for a character that cannot stand for itself is an escape. -/
theorem readEscape_stringChar {c : Char}
    (h : c = '\x22' ∨ c = '\\' ∨ c.toNat < 0x20) :
    ∃ e, charBytes (stringChar c) = backslash :: e ∧
      ∀ rest, readEscape (e ++ rest) = .ok (String.utf8EncodeChar c, rest) := by
  unfold stringChar
  split
  · next hc => exact ⟨[0x22], rfl, fun rest => hc ▸ rfl⟩
  split
  · next hc => exact ⟨[0x5C], rfl, fun rest => hc ▸ rfl⟩
  split
  · next hc => exact ⟨[0x62], rfl, fun rest => hc ▸ rfl⟩
  split
  · next hc => exact ⟨[0x66], rfl, fun rest => hc ▸ rfl⟩
  split
  · next hc => exact ⟨[0x6E], rfl, fun rest => hc ▸ rfl⟩
  split
  · next hc => exact ⟨[0x72], rfl, fun rest => hc ▸ rfl⟩
  split
  · next hc => exact ⟨[0x74], rfl, fun rest => hc ▸ rfl⟩
  next hq hb _ _ _ _ _ =>
  have hc : c.toNat < 0x20 := (h.resolve_left hq).resolve_left hb
  rw [if_pos hc]
  refine ⟨0x75 :: charBytes ['0', '0', hexDigit (c.toNat / 16), hexDigit (c.toNat % 16)],
    rfl, fun rest => ?_⟩
  rw [List.cons_append, readEscape, if_pos rfl, readUnicodeEscape, readHex4_control hc]
  have hlow : ¬ (0xDC00 ≤ c.toNat ∧ c.toNat ≤ 0xDFFF) := by omega
  have hhigh : c.toNat < 0xD800 ∨ 0xDBFF < c.toNat := by omega
  simp [bind, Except.bind, pure, Except.pure, hlow, hhigh, utf8_singleton, Char.ofNat_toNat]

/-- A character that stands for itself. -/
theorem stringChar_eq_singleton {c : Char} (h : ¬ (c = '\x22' ∨ c = '\\' ∨ c.toNat < 0x20)) :
    stringChar c = [c] := by
  obtain ⟨hq, hb, hc⟩ : c ≠ '\x22' ∧ c ≠ '\\' ∧ ¬ c.toNat < 0x20 := by simpa using h
  have hne : ∀ d : Char, d.toNat < 0x20 → c ≠ d := fun d hd he => hc (he ▸ hd)
  unfold stringChar
  rw [if_neg hq, if_neg hb, if_neg (hne _ (by decide)), if_neg (hne _ (by decide)),
    if_neg (hne _ (by decide)), if_neg (hne _ (by decide)), if_neg (hne _ (by decide)), if_neg hc]

theorem plain_of_mem_utf8EncodeChar {c : Char} {b : UInt8}
    (h : ¬ (c = '\x22' ∨ c = '\\' ∨ c.toNat < 0x20)) (hb : b ∈ String.utf8EncodeChar c) :
    b ≠ quoteMark ∧ b ≠ backslash ∧ ¬ b < 0x20 := by
  obtain ⟨hq, hs, hc⟩ : c ≠ '\x22' ∧ c ≠ '\\' ∧ ¬ c.toNat < 0x20 := by simpa using h
  have hnat : b.toNat ≠ 0x22 ∧ b.toNat ≠ 0x5C ∧ ¬ b.toNat < 0x20 := by
    by_cases hlt : c.toNat < 0x80
    · rw [utf8EncodeChar_of_lt hlt, List.mem_singleton] at hb
      have htoNat : b.toNat = c.toNat := by
        rw [hb, UInt8.toNat_ofNat']
        omega
      rw [htoNat]
      refine ⟨fun he => hq ?_, fun he => hs ?_, hc⟩
      · rw [← c.ofNat_toNat, he]
      · rw [← c.ofNat_toNat, he]
    · have hle := le_of_mem_utf8EncodeChar (Nat.not_lt.1 hlt) hb
      omega
  refine ⟨fun he => hnat.1 (he ▸ rfl), fun he => hnat.2.1 (he ▸ rfl), fun hlt => hnat.2.2 ?_⟩
  exact UInt8.lt_iff_toNat_lt.1 hlt

/-- **The characters of a string are read back.** -/
theorem readStringBytes_flatMap (rest : Bytes) :
    ∀ (cs : List Char) {fuel : Nat}, (charBytes (cs.flatMap stringChar)).length < fuel →
      readStringBytes fuel (charBytes (cs.flatMap stringChar) ++ quoteMark :: rest) =
        .ok (charBytes cs, rest)
  | [], fuel + 1, _ => rfl
  | c :: cs, fuel, hfuel => by
    rw [List.flatMap_cons, charBytes_append] at hfuel ⊢
    rw [List.length_append] at hfuel
    rw [List.append_assoc, charBytes_cons]
    by_cases h : c = '\x22' ∨ c = '\\' ∨ c.toNat < 0x20
    · obtain ⟨e, heq, hread⟩ := readEscape_stringChar h
      obtain ⟨fuel, rfl⟩ : ∃ f, fuel = f + 1 := ⟨fuel - 1, by omega⟩
      rw [heq, List.length_cons] at hfuel
      rw [heq, List.cons_append, readStringBytes_escape (hread _),
        readStringBytes_flatMap rest cs (by omega)]
      rfl
    · have hplain : ∀ b ∈ String.utf8EncodeChar c, b ≠ quoteMark ∧ b ≠ backslash ∧ ¬ b < 0x20 :=
        fun b hb => plain_of_mem_utf8EncodeChar h hb
      have hbytes : charBytes (stringChar c) = String.utf8EncodeChar c := by
        rw [stringChar_eq_singleton h]
        exact List.append_nil _
      rw [hbytes] at hfuel ⊢
      obtain ⟨fuel, rfl⟩ : ∃ f, fuel = (String.utf8EncodeChar c).length + f :=
        ⟨fuel - (String.utf8EncodeChar c).length, by omega⟩
      rw [readStringBytes_plain hplain, readStringBytes_flatMap rest cs (by omega)]
      rfl

/-- **A string is read back**, here from behind its opening quote. -/
theorem readStringRest_charBytes (t : String) (rest : Bytes) :
    readStringRest (charBytes (t.toList.flatMap stringChar) ++ quoteMark :: rest) =
      .ok (t, rest) := by
  unfold readStringRest
  rw [readStringBytes_flatMap rest t.toList (by rw [List.length_append]; omega)]
  simp only [bind, Except.bind]
  rw [← utf8_eq_charBytes, ofUtf8?_utf8]
  rfl

theorem charBytes_stringChars (t : String) :
    charBytes (stringChars t) =
      quoteMark :: (charBytes (t.toList.flatMap stringChar) ++ [quoteMark]) := by
  unfold stringChars
  rw [List.cons_append, charBytes_cons, charBytes_append]
  rfl

theorem readString_stringChars (t : String) (rest : Bytes) :
    readString (charBytes (stringChars t) ++ rest) = .ok (t, rest) := by
  rw [charBytes_stringChars, List.cons_append, List.append_assoc, readString]
  exact readStringRest_charBytes t rest

/-- Characters of which none is escaped stand in the quotes as they are. -/
theorem stringChars_ofList {cs : List Char}
    (h : ∀ c ∈ cs, ¬ (c = '\x22' ∨ c = '\\' ∨ c.toNat < 0x20)) :
    stringChars (String.ofList cs) = '\x22' :: cs ++ ['\x22'] := by
  have hflat : ∀ {cs : List Char}, (∀ c ∈ cs, stringChar c = [c]) → cs.flatMap stringChar = cs := by
    intro cs hcs
    induction cs with
    | nil => rfl
    | cons c cs ih =>
      rw [List.flatMap_cons, hcs c List.mem_cons_self,
        ih fun d hd => hcs d (List.mem_cons_of_mem _ hd)]
      rfl
  unfold stringChars
  rw [String.toList_ofList, hflat fun c hc => stringChar_eq_singleton (h c hc)]

/-! ## 2. Numbers -/

/-- What may stand behind a number: no digit, no point and no exponent. -/
def Ends (s : Bytes) : Prop :=
  ∀ b ∈ s.head?, isDigit b = false ∧ b ≠ 0x2E ∧ b ≠ 0x65 ∧ b ≠ 0x45

/-- Digits read onto a number. -/
def digitsOnto (n : Nat) (l : Bytes) : Nat := l.foldl (fun n b => n * 10 + digitValue b) n

theorem le_digitsOnto (l : Bytes) (n : Nat) : n ≤ digitsOnto n l := by
  induction l generalizing n with
  | nil => exact Nat.le_refl n
  | cons b l ih =>
    have hstep := ih (n * 10 + digitValue b)
    change n ≤ digitsOnto (n * 10 + digitValue b) l
    omega

theorem readDigits_append (positive : Bool) {l : Bytes} (h : ∀ b ∈ l, isDigit b = true)
    {n : Nat} (hn : digitsOnto n l ≤ Decimal.greatestWord64) (rest : Bytes) :
    readDigits positive n (l ++ rest) = readDigits positive (digitsOnto n l) rest := by
  induction l generalizing n with
  | nil => rfl
  | cons b l ih =>
    have hstep : digitsOnto n (b :: l) = digitsOnto (n * 10 + digitValue b) l := rfl
    rw [hstep] at hn ⊢
    have hle := le_digitsOnto l (n * 10 + digitValue b)
    rw [List.cons_append, readDigits, if_pos (h b List.mem_cons_self)]
    simp only
    rw [if_pos (by omega), ih (fun x hx => h x (List.mem_cons_of_mem _ hx)) hn]

theorem readShort_of_ends (positive : Bool) (n : Nat) {s : Bytes} (h : Ends s) :
    readShort positive n s = readShort.plain positive n s := by
  cases s with
  | nil => rfl
  | cons b rest =>
    obtain ⟨-, hpoint, he, hE⟩ := h b rfl
    simp [readShort, hpoint, he, hE]

theorem readDigits_of_ends (positive : Bool) (n : Nat) {s : Bytes} (h : Ends s) :
    readDigits positive n s = readShort.plain positive n s := by
  rw [← readShort_of_ends positive n h]
  cases s with
  | nil => rfl
  | cons b rest =>
    obtain ⟨hdigit, -⟩ := h b rfl
    rw [readDigits, if_neg (by simp [hdigit])]

theorem utf8EncodeChar_digitChar {d : Nat} (h : d < 10) :
    String.utf8EncodeChar (Nat.digitChar d) = [UInt8.ofNat (48 + d)] := by
  have hall : ∀ d : Fin 10, String.utf8EncodeChar (Nat.digitChar d) = [UInt8.ofNat (48 + d)] := by
    decide
  exact hall ⟨d, h⟩

theorem isDigit_of_lt {d : Nat} (h : d < 10) :
    isDigit (UInt8.ofNat (48 + d)) = true ∧ digitValue (UInt8.ofNat (48 + d)) = d := by
  have hall : ∀ d : Fin 10, isDigit (UInt8.ofNat (48 + d)) = true ∧
      digitValue (UInt8.ofNat (48 + d)) = d := by decide
  exact hall ⟨d, h⟩

theorem charBytes_natChars_of_le {n : Nat} (h : 10 ≤ n) :
    charBytes (Decimal.natChars n) =
      charBytes (Decimal.natChars (n / 10)) ++ [UInt8.ofNat (48 + n % 10)] := by
  rw [Decimal.natChars_of_le h, charBytes_append, charBytes_cons,
    utf8EncodeChar_digitChar (Nat.mod_lt _ (by decide))]
  rfl

theorem charBytes_natChars_of_lt {n : Nat} (h : n < 10) :
    charBytes (Decimal.natChars n) = [UInt8.ofNat (48 + n)] := by
  rw [Decimal.natChars_of_lt h, charBytes_cons, utf8EncodeChar_digitChar h]
  rfl

/-- **The digits of a number are digits and come to the number.** -/
theorem digitsOnto_natChars (n : Nat) :
    (∀ b ∈ charBytes (Decimal.natChars n), isDigit b = true) ∧
      digitsOnto 0 (charBytes (Decimal.natChars n)) = n := by
  induction n using Nat.strongRecOn with
  | ind n ih =>
    by_cases hn : n < 10
    · rw [charBytes_natChars_of_lt hn]
      refine ⟨fun b hb => List.mem_singleton.1 hb ▸ (isDigit_of_lt hn).1, ?_⟩
      change 0 * 10 + digitValue _ = n
      rw [(isDigit_of_lt hn).2]
      omega
    · have hlast : n % 10 < 10 := Nat.mod_lt _ (by decide)
      obtain ⟨hdigits, hsum⟩ := ih (n / 10) (Nat.div_lt_self (by omega) (by decide))
      rw [charBytes_natChars_of_le (Nat.not_lt.1 hn)]
      refine ⟨fun b hb => ?_, ?_⟩
      · rcases List.mem_append.1 hb with hb | hb
        · exact hdigits b hb
        · rw [List.mem_singleton.1 hb]
          exact (isDigit_of_lt hlast).1
      · unfold digitsOnto at hsum ⊢
        rw [List.foldl_append, hsum]
        simp only [List.foldl_cons, List.foldl_nil, (isDigit_of_lt hlast).2]
        omega

/-- The first digit is no zero, unless the number is. -/
theorem charBytes_natChars_eq_cons {n : Nat} (h : 0 < n) :
    ∃ d l, 0 < d ∧ d < 10 ∧ charBytes (Decimal.natChars n) = UInt8.ofNat (48 + d) :: l := by
  induction n using Nat.strongRecOn with
  | ind n ih =>
    by_cases hn : n < 10
    · exact ⟨n, [], h, hn, charBytes_natChars_of_lt hn⟩
    · obtain ⟨d, l, h0, h10, heq⟩ := ih (n / 10) (Nat.div_lt_self (by omega) (by decide))
        (Nat.div_pos (by omega) (by decide))
      rw [charBytes_natChars_of_le (Nat.not_lt.1 hn), heq]
      exact ⟨d, l ++ [UInt8.ofNat (48 + n % 10)], h0, h10, List.cons_append⟩

/-- **A number of 64 bits is read back**, with or without a sign in front. -/
theorem readUnsigned_natChars (positive : Bool) {n : Nat} (hn : n ≤ Decimal.greatestWord64)
    {rest : Bytes} (h : Ends rest) :
    readUnsigned positive (charBytes (Decimal.natChars n) ++ rest) =
      readShort.plain positive n rest := by
  rcases Nat.eq_zero_or_pos n with rfl | hpos
  · have hstart : startsWithDigit rest = false := by
      cases rest with
      | nil => rfl
      | cons b rest => simpa [startsWithDigit] using (h b rfl).1
    rw [charBytes_natChars_of_lt (by decide)]
    change readUnsigned positive (0x30 :: rest) = _
    rw [readUnsigned, if_pos rfl, if_neg (by simp [hstart]), readShort_of_ends _ _ h]
  · obtain ⟨d, l, h0, h10, heq⟩ := charBytes_natChars_eq_cons hpos
    obtain ⟨hdigits, hsum⟩ := digitsOnto_natChars n
    rw [heq] at hdigits hsum ⊢
    have hzero : UInt8.ofNat (48 + d) ≠ 0x30 := by
      have hall : ∀ d : Fin 10, 0 < d.val → UInt8.ofNat (48 + d) ≠ 0x30 := by decide
      exact hall ⟨d, h10⟩ h0
    have hfirst : digitsOnto (digitValue (UInt8.ofNat (48 + d))) l = n := by
      simpa [digitsOnto] using hsum
    rw [List.cons_append, readUnsigned, if_neg hzero, if_pos (hdigits _ List.mem_cons_self),
      readDigits_append positive (fun b hb => hdigits b (List.mem_cons_of_mem _ hb))
        (by rw [hfirst]; exact hn) rest, hfirst, readDigits_of_ends _ _ h]

/-- **An integer of 64 bits is read back.** -/
theorem readInt_charBytes {n : Int} (hl : -9223372036854775808 ≤ n) (hu : n ≤ 9223372036854775807)
    {rest : Bytes} (h : Ends rest) :
    readInt Decimal.greatestInt64 (charBytes (Decimal.intChars n) ++ rest) = .ok (n, rest) := by
  cases n with
  | ofNat n =>
    have hn : n ≤ Decimal.greatestInt64 := Int.ofNat_le.1 hu
    have hread := readUnsigned_natChars true (Nat.le_trans hn (by decide)) h
    have hne : charBytes (Decimal.natChars n) ≠ [] := by
      obtain ⟨c, cs, heq, -⟩ := Decimal.natChars_eq_cons n
      rw [heq, charBytes_cons]
      simp
    obtain ⟨b, l, heq⟩ := List.exists_cons_of_ne_nil hne
    have hb : isDigit b = true :=
      (digitsOnto_natChars n).1 b (heq ▸ List.mem_cons_self)
    have hsign : ∀ b : UInt8, isDigit b = true → isSpace b = false ∧ b ≠ 0x2D := by
      intro b hb
      simp only [isDigit, Bool.and_eq_true, decide_eq_true_eq, UInt8.le_iff_toNat_le] at hb
      refine ⟨?_, fun he => by simp [he] at hb⟩
      unfold isSpace
      simp only [Bool.or_eq_false_iff, decide_eq_false_iff_not]
      refine ⟨⟨⟨?_, ?_⟩, ?_⟩, ?_⟩ <;> intro he <;> simp [he] at hb
    rw [Decimal.intChars_ofNat]
    unfold readInt readNumber
    rw [heq] at hread ⊢
    rw [List.cons_append, skipSpace, List.dropWhile_cons_of_neg (by simp [(hsign b hb).1])]
    simp only [if_neg (hsign b hb).2, if_pos hb]
    rw [← List.cons_append, hread]
    simp [readShort.plain, bind, Except.bind, pure, Except.pure, hn]
  | negSucc n =>
    have hn : n + 1 ≤ Decimal.greatestInt64 + 1 := by
      unfold Decimal.greatestInt64
      omega
    have hread := readUnsigned_natChars false (Nat.le_trans hn (by decide)) h
    have hfit : ¬ Decimal.greatestInt64 + 1 < n + 1 := by omega
    rw [Decimal.intChars_negSucc, charBytes_cons]
    change readInt Decimal.greatestInt64 (0x2D :: (charBytes (Decimal.natChars (n + 1)) ++ rest)) = _
    unfold readInt readNumber
    rw [skipSpace, List.dropWhile_cons_of_neg (by decide)]
    simp only [if_pos]
    rw [hread]
    simp [readShort.plain, bind, Except.bind, pure, Except.pure, hn, hfit, Int.negSucc_eq]

/-! ## 3. Objects -/

theorem charBytes_openBrace (cs : List Char) :
    charBytes ('\x7b' :: cs) = openBrace :: charBytes cs := rfl

theorem charBytes_colon (cs : List Char) : charBytes (':' :: cs) = colon :: charBytes cs := rfl

theorem charBytes_comma (cs : List Char) : charBytes (',' :: cs) = comma :: charBytes cs := rfl

theorem charBytes_closeBrace : charBytes ['\x7d'] = [closeBrace] := rfl

section Objects

variable {σ : Type} {field : String → σ → Reader σ} {fuel : Nat} {g : σ}

/-- What is read for a field and those behind it. -/
theorem readFields_first (name : String) (rest : Bytes) :
    readFields field (fuel + 1) true g (charBytes (stringChars name) ++ rest) =
      (field name g rest).bind fun (g, rest) => readFields field fuel false g rest := by
  rw [charBytes_stringChars, List.cons_append, List.append_assoc, readFields]
  have hnext : ∀ s, nextField true (quoteMark :: s) = .ok (true, s) := fun _ => rfl
  rw [hnext]
  simp only [bind, Except.bind]
  rw [List.singleton_append, readStringRest_charBytes]

theorem readFields_next (name : String) (rest : Bytes) :
    readFields field (fuel + 1) false g (comma :: (charBytes (stringChars name) ++ rest)) =
      (field name g rest).bind fun (g, rest) => readFields field fuel false g rest := by
  rw [charBytes_stringChars, List.cons_append, List.append_assoc, readFields]
  have hnext : ∀ s, nextField false (comma :: quoteMark :: s) = .ok (true, s) := fun _ => rfl
  rw [hnext]
  simp only [bind, Except.bind]
  rw [List.singleton_append, readStringRest_charBytes]

theorem readFields_end (first : Bool) (rest : Bytes) :
    readFields field (fuel + 1) first g (closeBrace :: rest) = .ok (g, closeBrace :: rest) := by
  cases first <;> rfl

end Objects

/-- Written values behind the first have a comma in front each. -/
theorem between_cons (v : List Char) (vs : List (List Char)) :
    between (v :: vs) = v ++ vs.flatMap fun w => ',' :: w := by
  induction vs generalizing v with
  | nil => simp [between]
  | cons w vs ih =>
    have hstep : between (v :: w :: vs) = v ++ ',' :: between (w :: vs) := by simp [between]
    rw [hstep, ih]
    simp

end Replica.Json
