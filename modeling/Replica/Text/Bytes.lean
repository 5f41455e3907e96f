/-
# Bytes and the text they spell

Values, files and bodies are lists of bytes; `utf8` writes a text as bytes and `ofUtf8?` reads
it back when the bytes are well formed.  `ofUtf8Lossy` reads any bytes: each ill-formed stretch
becomes one U+FFFD, where a stretch is as long as it could still have begun a character.
-/

namespace Replica

/-- A value, a file or a body. -/
abbrev Bytes := List UInt8

namespace Text

/-- The byte that ends a line. -/
def lineFeed : UInt8 := 0x0A

/-- The bytes of a text. -/
def utf8 (s : String) : Bytes := s.toByteArray.data.toList

/-- The text that the bytes spell, if they are well formed. -/
def ofUtf8? (b : Bytes) : Option String := String.fromUTF8? ⟨b.toArray⟩

/-- **Writing and reading a text gives the text.** -/
@[simp] theorem ofUtf8?_utf8 (s : String) : ofUtf8? (utf8 s) = some s := by
  have h : (⟨(utf8 s).toArray⟩ : ByteArray) = s.toByteArray := by simp [utf8]
  unfold ofUtf8?
  rw [h, String.fromUTF8?, dif_pos s.isValidUTF8]
  rfl

/-- What reads as a text is the bytes of that text. -/
theorem utf8_of_ofUtf8? {b : Bytes} {s : String} (h : ofUtf8? b = some s) : utf8 s = b := by
  simp only [ofUtf8?, String.fromUTF8?] at h
  split at h
  · simp only [Option.some.injEq] at h
    subst h
    simp [utf8, String.fromUTF8]
  · cases h

theorem utf8_append (s t : String) : utf8 (s ++ t) = utf8 s ++ utf8 t := by
  simp [utf8, String.toByteArray_append]

/-! ## Reading ill-formed bytes -/

/-- Whether a byte continues a character, between two bounds. -/
def continues (low high : UInt8) (b : UInt8) : Bool := low ≤ b && b ≤ high

/-- How many bytes follow a leading byte, and the bounds of the first of them. -/
def following? (lead : UInt8) : Option (Nat × UInt8 × UInt8) :=
  if lead < 0x80 then some (0, 0, 0)
  else if lead < 0xC2 then none
  else if lead < 0xE0 then some (1, 0x80, 0xBF)
  else if lead == 0xE0 then some (2, 0xA0, 0xBF)
  else if lead == 0xED then some (2, 0x80, 0x9F)
  else if lead < 0xF0 then some (2, 0x80, 0xBF)
  else if lead == 0xF0 then some (3, 0x90, 0xBF)
  else if lead < 0xF4 then some (3, 0x80, 0xBF)
  else if lead == 0xF4 then some (3, 0x80, 0x8F)
  else none

/-- Up to `count` continuing bytes: their six low bits added to `acc`, whether all were there,
and what is left. -/
def takeFollowing : Nat → UInt8 → UInt8 → Nat → Bytes → Nat × Bool × Bytes
  | 0, _, _, acc, rest => (acc, true, rest)
  | _ + 1, _, _, acc, [] => (acc, false, [])
  | count + 1, low, high, acc, b :: rest =>
    if continues low high b then
      takeFollowing count 0x80 0xBF (acc * 64 + b.toNat % 64) rest
    else (acc, false, b :: rest)

/-- The value bits of a leading byte that `count` bytes follow. -/
def leadBits (lead : UInt8) (count : Nat) : Nat :=
  match count with
  | 0 => lead.toNat
  | 1 => lead.toNat % 32
  | 2 => lead.toNat % 16
  | _ => lead.toNat % 8

/-- The characters of the bytes, with at most `fuel` steps; one step takes a byte or more. -/
def lossyChars : Nat → Bytes → List Char
  | 0, _ => []
  | _ + 1, [] => []
  | fuel + 1, lead :: rest =>
    match following? lead with
    | none => Char.ofNat 0xFFFD :: lossyChars fuel rest
    | some (count, low, high) =>
      match takeFollowing count low high (leadBits lead count) rest with
      | (n, true, rest') => Char.ofNat n :: lossyChars fuel rest'
      | (_, false, rest') => Char.ofNat 0xFFFD :: lossyChars fuel rest'

/-- The text of any bytes, U+FFFD standing for each ill-formed stretch. -/
def ofUtf8Lossy (b : Bytes) : String := String.ofList (lossyChars b.length b)

end Text

end Replica
