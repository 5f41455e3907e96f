/-
# Base64

Bytes as text over sixty-four symbols, padded to whole quads with `=`.  Reading is strict:
padding is required and the bits it leaves over are zero, so **each list of bytes has one
written form**.  A fault tells the first place that is wrong; every quad but the last is looked
at before the last one, and a text one symbol too long is judged by that symbol first.
-/

import Replica.Text.Bytes

namespace Replica.Text.Base64

/-- Why a text is not base64. -/
inductive Fault where
  | symbol (byte : UInt8) (offset : Nat)
  | length (n : Nat)
  | lastSymbol (byte : UInt8) (offset : Nat)
  | padding
deriving DecidableEq, Repr

def Fault.message : Fault → String
  | .symbol b n => "Invalid symbol " ++ toString b.toNat ++ ", offset " ++ toString n ++ "."
  | .length n => "Invalid input length: " ++ toString n
  | .lastSymbol b n =>
    "Invalid last symbol " ++ toString b.toNat ++ ", offset " ++ toString n ++ "."
  | .padding => "Invalid padding"

/-- The symbol of a number below sixty-four. -/
def symbol (n : Nat) : UInt8 :=
  if n < 26 then UInt8.ofNat (65 + n)
  else if n < 52 then UInt8.ofNat (71 + n)
  else if n < 62 then UInt8.ofNat (n - 4)
  else if n = 62 then 43
  else 47

/-- The number of a symbol. -/
def value? (b : UInt8) : Option Nat :=
  let n := b.toNat
  if 65 ≤ n ∧ n ≤ 90 then some (n - 65)
  else if 97 ≤ n ∧ n ≤ 122 then some (n - 71)
  else if 48 ≤ n ∧ n ≤ 57 then some (n + 4)
  else if n = 43 then some 62
  else if n = 47 then some 63
  else none

theorem value?_symbol : ∀ n : Fin 64, value? (symbol n) = some n.val := by decide

/-- The padding sign. -/
def pad : UInt8 := 61

/-! ## Writing -/

/-- Three bytes become four symbols; one or two bytes at the end are padded. -/
def encode : Bytes → Bytes
  | [] => []
  | [a] =>
    let n := a.toNat * 16
    [symbol (n / 64), symbol (n % 64), pad, pad]
  | [a, b] =>
    let n := (a.toNat * 256 + b.toNat) * 4
    [symbol (n / 4096), symbol (n / 64 % 64), symbol (n % 64), pad]
  | a :: b :: c :: rest =>
    let n := (a.toNat * 256 + b.toNat) * 256 + c.toNat
    symbol (n / 262144) :: symbol (n / 4096 % 64) :: symbol (n / 64 % 64) :: symbol (n % 64) ::
      encode rest

/-! ## Reading -/

/-- The value of a symbol, or the fault at its place. -/
def symbolValue (offset : Nat) (b : UInt8) : Except Fault Nat :=
  match value? b with
  | some n => .ok n
  | none => .error (.symbol b offset)

/-- The three bytes of four symbols. -/
def quadBytes (a b c d : Nat) : Bytes :=
  let n := ((a * 64 + b) * 64 + c) * 64 + d
  [UInt8.ofNat (n / 65536), UInt8.ofNat (n / 256 % 256), UInt8.ofNat (n % 256)]

/-- What the last quad holds: the symbols in front, and how many padding signs follow them.
`index` counts the bytes already seen and `firstPad` is the place of the first padding sign. -/
def scanLast (start : Nat) :
    (index : Nat) → (symbols : List (UInt8 × Nat)) → (pads : Nat) → Bytes →
      Except Fault (List (UInt8 × Nat) × Nat)
  | _, symbols, pads, [] => .ok (symbols, pads)
  | index, symbols, pads, b :: rest =>
    if b = pad then
      if index < 2 then .error (.symbol b (start + index))
      else scanLast start (index + 1) symbols (pads + 1) rest
    else if pads > 0 then .error (.symbol pad (start + symbols.length))
    else match value? b with
      | none => .error (.symbol b (start + index))
      | some n => scanLast start (index + 1) (symbols ++ [(b, n)]) pads rest

/-- The bytes of the last quad, which begins at `start` and may be padded. -/
def decodeLast (start : Nat) (quad : Bytes) : Except Fault Bytes := do
  let (symbols, pads) ← scanLast start 0 [] 0 quad
  if quad.isEmpty then return []
  if symbols.length < 2 then throw (.length (start + symbols.length))
  if (symbols.length + pads) % 4 ≠ 0 then throw .padding
  match symbols with
  | [(_, a), (y, b)] =>
    if b % 16 ≠ 0 then throw (.lastSymbol y (start + 1))
    return [UInt8.ofNat ((a * 64 + b) / 16)]
  | [(_, a), (_, b), (z, c)] =>
    if c % 4 ≠ 0 then throw (.lastSymbol z (start + 2))
    let n := ((a * 64 + b) * 64 + c) / 4
    return [UInt8.ofNat (n / 256), UInt8.ofNat (n % 256)]
  | (_, a) :: (_, b) :: (_, c) :: (_, d) :: _ => return quadBytes a b c d
  | _ => return []

/-- The bytes of all quads: of a text longer than a quad, the first four bytes are symbols. -/
def decodeQuads (start : Nat) : Bytes → Except Fault Bytes
  | a :: b :: c :: d :: e :: rest => do
    let a ← symbolValue start a
    let b ← symbolValue (start + 1) b
    let c ← symbolValue (start + 2) c
    let d ← symbolValue (start + 3) d
    let more ← decodeQuads (start + 4) (e :: rest)
    return quadBytes a b c d ++ more
  | quad => decodeLast start quad

/-- The fault of a text that is one byte too long, if that byte is no symbol and no padding. -/
def strayByte? (text : Bytes) : Option Fault :=
  if text.length % 4 = 1 then
    match text.getLast? with
    | some b =>
      if b ≠ pad ∧ value? b = none then some (.symbol b (text.length - 1)) else none
    | none => none
  else none

/-- The bytes that the text spells. -/
def decode (text : Bytes) : Except Fault Bytes :=
  match strayByte? text with
  | some fault => .error fault
  | none => decodeQuads 0 text

end Replica.Text.Base64
