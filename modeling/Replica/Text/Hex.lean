/-
# Hexadecimal digits

Digits and pairs of digits, written in lower or upper case and read in either.
-/

import Replica.Text.Bytes

namespace Replica.Text

/-- The digit of a number below sixteen, in lower case. -/
def hexDigit (n : Nat) : Char := Nat.digitChar n

/-- The digit of a number below sixteen, in upper case. -/
def hexDigitUpper (n : Nat) : Char :=
  if n < 10 then Nat.digitChar n else Char.ofNat (55 + n)

/-- The value of a digit of either case. -/
def hexValue? (c : Char) : Option Nat :=
  if '0' ≤ c ∧ c ≤ '9' then some (c.toNat - 48)
  else if 'a' ≤ c ∧ c ≤ 'f' then some (c.toNat - 87)
  else if 'A' ≤ c ∧ c ≤ 'F' then some (c.toNat - 55)
  else none

/-- The value of a byte that spells a digit. -/
def hexByteValue? (b : UInt8) : Option Nat := hexValue? (Char.ofNat b.toNat)

/-- **Reading the digit of a number gives the number.** -/
theorem hexValue?_hexDigit : ∀ n : Fin 16, hexValue? (hexDigit n) = some n.val := by decide

theorem hexValue?_hexDigitUpper : ∀ n : Fin 16, hexValue? (hexDigitUpper n) = some n.val := by
  decide

/-- Two digits for each byte. -/
def hex (b : Bytes) : String :=
  String.ofList (b.flatMap fun x => [hexDigit (x.toNat / 16), hexDigit (x.toNat % 16)])

/-- The bytes that pairs of digits spell; nothing for an odd count or another character. -/
def ofHexChars? : List Char → Option Bytes
  | [] => some []
  | [_] => none
  | c :: d :: rest => do
    let high ← hexValue? c
    let low ← hexValue? d
    let more ← ofHexChars? rest
    pure (UInt8.ofNat (high * 16 + low) :: more)

def ofHex? (s : String) : Option Bytes := ofHexChars? s.toList

end Replica.Text
