/-
# Percent signs and forms

Bytes written as `%` and two digits, as paths and queries hold them, and the form of names and
values that a query is.  Reading is lenient: a `%` without two digits behind it stands for
itself, and in a form ill-formed text is repaired.
-/

import Replica.Text.Blank
import Replica.Text.Hex

namespace Replica.Text

def percentSign : UInt8 := 0x25

/-- The bytes that a text with percent signs stands for. -/
def percentDecode : Bytes → Bytes
  | b :: h :: l :: rest =>
    if b = percentSign then
      match hexByteValue? h, hexByteValue? l with
      | some high, some low => UInt8.ofNat (high * 16 + low) :: percentDecode rest
      | _, _ => b :: percentDecode (h :: l :: rest)
    else b :: percentDecode (h :: l :: rest)
  | short => short

/-- A byte as a percent sign and two digits. -/
def percentByte (b : UInt8) : List Char :=
  ['%', hexDigitUpper (b.toNat / 16), hexDigitUpper (b.toNat % 16)]

/-! ## Forms -/

/-- Whether a byte stands for itself in a form. -/
def isFormByte (b : UInt8) : Bool :=
  let c := Char.ofNat b.toNat
  c.isAlphanum || c = '*' || c = '-' || c = '.' || c = '_'

/-- A name or a value of a form: a space is a plus sign. -/
def formEncode (s : String) : String :=
  String.ofList ((utf8 s).flatMap fun b =>
    if b = 0x20 then ['+'] else if isFormByte b then [Char.ofNat b.toNat] else percentByte b)

/-- The text of a name or a value of a form. -/
def formDecode (b : Bytes) : String :=
  ofUtf8Lossy (percentDecode (b.map fun x => if x = 0x2B then 0x20 else x))

/-- The names and values of a form, those that are empty left out. -/
def formFields (b : Bytes) : List (String × String) :=
  ((pieces (· = 0x26) b).filter fun field => !field.isEmpty).map fun field =>
    let name := field.takeWhile (· ≠ 0x3D)
    (formDecode name, formDecode (field.drop (name.length + 1)))

end Replica.Text
