/-
# Decimal numbers

Integers as text.  `readNat` and `readInt` take digits with an optional sign and refuse the first
thing that is wrong, from left to right: a character that is no digit, or the digit that takes
the number past its bound.
-/

namespace Replica.Text.Decimal

/-- Why a text is no number. -/
inductive Fault where
  | empty
  | notADigit
  | tooLarge
  | tooSmall
deriving DecidableEq, Repr

def Fault.message : Fault → String
  | .empty => "cannot parse integer from empty string"
  | .notADigit => "invalid digit found in string"
  | .tooLarge => "number too large to fit in target type"
  | .tooSmall => "number too small to fit in target type"

/-- The greatest natural number of 32 bits. -/
def greatestWord32 : Nat := 4294967295

/-- The greatest natural number of 64 bits. -/
def greatestWord64 : Nat := 18446744073709551615

/-- The greatest integer of 64 bits with a sign. -/
def greatestInt64 : Nat := 9223372036854775807

/-- The value of a decimal digit. -/
def digit? (c : Char) : Option Nat :=
  if '0' ≤ c ∧ c ≤ '9' then some (c.toNat - 48) else none

/-- Digits read onto `value`, which may not pass `limit`. -/
def readDigits (limit : Nat) (beyond : Fault) (value : Nat) : List Char → Except Fault Nat
  | [] => .ok value
  | c :: rest =>
    match digit? c with
    | none => .error .notADigit
    | some d =>
      if value * 10 + d ≤ limit then readDigits limit beyond (value * 10 + d) rest
      else .error beyond

/-- A natural number of at most `limit`; a plus sign may stand in front. -/
def readNat (limit : Nat) (s : List Char) : Except Fault Nat :=
  match s with
  | [] => .error .empty
  | ['+'] => .error .notADigit
  | '+' :: rest => readDigits limit .tooLarge 0 rest
  | _ => readDigits limit .tooLarge 0 s

/-- An integer from `-(limit + 1)` to `limit`; a sign may stand in front. -/
def readInt (limit : Nat) (s : List Char) : Except Fault Int :=
  match s with
  | [] => .error .empty
  | ['+'] => .error .notADigit
  | ['-'] => .error .notADigit
  | '+' :: rest => (readDigits limit .tooLarge 0 rest).map Int.ofNat
  | '-' :: rest => (readDigits (limit + 1) .tooSmall 0 rest).map fun n => -Int.ofNat n
  | _ => (readDigits limit .tooLarge 0 s).map Int.ofNat

/-- The digits of a natural number. -/
def natChars (n : Nat) : List Char := Nat.toDigits 10 n

/-- The digits of an integer, behind a minus sign if it is negative. -/
def intChars : Int → List Char
  | .ofNat n => natChars n
  | .negSucc n => '-' :: natChars (n + 1)

def ofNat (n : Nat) : String := String.ofList (natChars n)

def ofInt (n : Int) : String := String.ofList (intChars n)

end Replica.Text.Decimal
