/-
# Reading JSON as a known shape

A text is read from left to right straight into the value it should hold, and the first
problem ends the reading: the input ends too early, it is not JSON, or it is JSON of another
shape.  What follows the first problem is never looked at.

A reader takes the bytes that are left and gives a value with the bytes that are left then.
Fields that nobody asks for are passed over; of what is passed over only the outline is
checked.
-/

import Replica.Text.Decimal
import Replica.Text.Bytes
import Replica.Text.Hex

namespace Replica.Json

/-- The first problem of a text. -/
inductive Fault where
  /-- The input ends inside a value. -/
  | ended
  /-- The input is not JSON. -/
  | illFormed
  /-- The input is JSON so far, but not of the shape that is read. -/
  | misshapen
deriving DecidableEq, Repr

/-- Reads a value off the front. -/
abbrev Reader (α : Type) := Bytes → Except Fault (α × Bytes)

/-! ## Bytes -/

/-- Space, line feed, tab and carriage return. -/
def isSpace (b : UInt8) : Bool := b = 0x20 || b = 0x0A || b = 0x09 || b = 0x0D

def skipSpace (s : Bytes) : Bytes := s.dropWhile isSpace

def isDigit (b : UInt8) : Bool := 0x30 ≤ b && b ≤ 0x39

def digitValue (b : UInt8) : Nat := b.toNat - 48

/-- Whether the next byte is a digit. -/
def startsWithDigit (s : Bytes) : Bool := s.head?.any isDigit

def quoteMark : UInt8 := 0x22

def backslash : UInt8 := 0x5C

def comma : UInt8 := 0x2C

def colon : UInt8 := 0x3A

def openBrace : UInt8 := 0x7B

def closeBrace : UInt8 := 0x7D

def openBracket : UInt8 := 0x5B

def closeBracket : UInt8 := 0x5D

/-- The rest of a word whose first letter decided what it is. -/
def readWord : List UInt8 → Bytes → Except Fault Bytes
  | [], s => .ok s
  | _ :: _, [] => .error .ended
  | w :: word, b :: rest => if b = w then readWord word rest else .error .illFormed

/-! ## Strings -/

/-- Four hexadecimal digits. -/
def readHex4 : Bytes → Except Fault (Nat × Bytes)
  | a :: b :: c :: d :: rest =>
    match Text.hexByteValue? a, Text.hexByteValue? b, Text.hexByteValue? c,
        Text.hexByteValue? d with
    | some a, some b, some c, some d => .ok (((a * 16 + b) * 16 + c) * 16 + d, rest)
    | _, _, _, _ => .error .illFormed
  | _ => .error .ended

/-- The byte that a short escape stands for. -/
def shortEscape? (b : UInt8) : Option UInt8 :=
  if b = 0x22 then some 0x22
  else if b = 0x5C then some 0x5C
  else if b = 0x2F then some 0x2F
  else if b = 0x62 then some 0x08
  else if b = 0x66 then some 0x0C
  else if b = 0x6E then some 0x0A
  else if b = 0x72 then some 0x0D
  else if b = 0x74 then some 0x09
  else none

/-- The character behind `\u`; two escapes together spell a character beyond U+FFFF. -/
def readUnicodeEscape (s : Bytes) : Except Fault (Char × Bytes) := do
  let (n, rest) ← readHex4 s
  if 0xDC00 ≤ n ∧ n ≤ 0xDFFF then throw .illFormed
  if n < 0xD800 ∨ 0xDBFF < n then return (Char.ofNat n, rest)
  match rest with
  | [] => throw .ended
  | b :: rest =>
    if b ≠ backslash then throw .illFormed
    match rest with
    | [] => throw .ended
    | u :: rest =>
      if u ≠ 0x75 then throw .illFormed
      let (m, rest) ← readHex4 rest
      if m < 0xDC00 ∨ 0xDFFF < m then throw .illFormed
      return (Char.ofNat ((n - 0xD800) * 1024 + (m - 0xDC00) + 0x10000), rest)

/-- What an escape stands for, behind its backslash. -/
def readEscape : Bytes → Except Fault (Bytes × Bytes)
  | [] => .error .ended
  | b :: rest =>
    if b = 0x75 then do
      let (c, rest) ← readUnicodeEscape rest
      return (Text.utf8 (String.singleton c), rest)
    else match shortEscape? b with
      | some x => .ok ([x], rest)
      | none => .error .illFormed

/-- The bytes of a string up to its closing quote; each step takes a byte or more. -/
def readStringBytes : (fuel : Nat) → Bytes → Except Fault (Bytes × Bytes)
  | 0, _ => .error .ended
  | _ + 1, [] => .error .ended
  | fuel + 1, b :: rest =>
    if b = quoteMark then .ok ([], rest)
    else if b = backslash then do
      let (x, rest) ← readEscape rest
      let (more, rest) ← readStringBytes fuel rest
      return (x ++ more, rest)
    else if b < 0x20 then .error .illFormed
    else do
      let (more, rest) ← readStringBytes fuel rest
      return (b :: more, rest)

/-- A string behind its opening quote. -/
def readStringRest : Reader String := fun s => do
  let (bytes, rest) ← readStringBytes (s.length + 1) s
  match Text.ofUtf8? bytes with
  | some t => return (t, rest)
  | none => throw .illFormed

/-! ## Numbers -/

/-- What a number comes to, as far as a reader of integers cares. -/
inductive Number where
  | natural (n : Nat)
  /-- Minus `n`, and not zero. -/
  | negative (n : Nat)
  /-- A number that is no integer, or none of 64 bits. -/
  | other
deriving DecidableEq, Repr

/-- The nearest number with 53 binary digits, ties to the even one. -/
def toDouble (n : Nat) : Nat :=
  let spare := n.log2 + 1 - 53
  let unit := Nat.pow 2 spare
  let down := n / unit
  let twice := 2 * (n % unit)
  if unit < twice ∨ (twice = unit ∧ down % 2 = 1) then (down + 1) * unit else down * unit

/-- Whether `n * 10 ^ e` is too large for a double, the power being rounded before and the
product after the multiplication. -/
def exceedsDouble (n : Nat) (e : Int) : Bool :=
  if n = 0 then false
  else match e with
    | .ofNat e => 308 < e || Nat.pow 2 1024 ≤ toDouble (toDouble n * toDouble (Nat.pow 10 e))
    | .negSucc _ => false

/-- A number that is no integer: refused if it is too large. -/
def floating (n : Nat) (e : Int) (rest : Bytes) : Except Fault (Number × Bytes) :=
  if exceedsDouble n e then .error .illFormed else .ok (.other, rest)

/-- An exponent's digits read onto `value`; nothing when they pass 31 bits. -/
def readExponentDigits (value : Nat) : Bytes → Option Nat × Bytes
  | [] => (some value, [])
  | b :: rest =>
    if isDigit b then
      let value' := value * 10 + digitValue b
      if value' ≤ 2147483647 then readExponentDigits value' rest
      else (none, rest)
    else (some value, b :: rest)

/-- The exponent behind its letter, for the digits `n` that stand for `n * 10 ^ e`. -/
def readExponent (n : Nat) (e : Int) (s : Bytes) : Except Fault (Number × Bytes) :=
  let (down, s) := match s with
    | 0x2B :: rest => (false, rest)
    | 0x2D :: rest => (true, rest)
    | _ => (false, s)
  match s with
  | [] => .error .ended
  | b :: rest =>
    if !isDigit b then .error .illFormed
    else match readExponentDigits (digitValue b) rest with
      | (some x, rest) => floating n (if down then e - x else e + x) rest
      | (none, rest) =>
        if n ≠ 0 && !down then .error .illFormed else .ok (.other, rest.dropWhile isDigit)

/-- What may follow the digits of a number that is no integer. -/
def readTail (n : Nat) (e : Int) (s : Bytes) : Except Fault (Number × Bytes) :=
  match s with
  | b :: rest => if b = 0x65 || b = 0x45 then readExponent n e rest else floating n e s
  | [] => floating n e s

/-- Digits behind the point: those that fit 64 bits count, and `e` falls by one for each. -/
def readDecimals (n : Nat) (e : Int) : Bytes → Nat × Int × Bytes
  | [] => (n, e, [])
  | b :: rest =>
    if isDigit b then
      let n' := n * 10 + digitValue b
      if n' ≤ Text.Decimal.greatestWord64 then readDecimals n' (e - 1) rest
      else (n, e, rest.dropWhile isDigit)
    else (n, e, b :: rest)

/-- A number behind its point. -/
def readFraction (n : Nat) (e : Int) (s : Bytes) : Except Fault (Number × Bytes) :=
  match s with
  | [] => .error .ended
  | b :: _ =>
    if isDigit b then
      let (n, e, rest) := readDecimals n e s
      readTail n e rest
    else .error .illFormed

/-- What follows the digits of an integer beyond 64 bits. -/
def readLong (n : Nat) (s : Bytes) : Except Fault (Number × Bytes) :=
  let dropped := (s.takeWhile isDigit).length
  match s.dropWhile isDigit with
  | 0x2E :: rest => readFraction n dropped rest
  | rest => readTail n dropped rest

/-- What follows the digits of an integer within 64 bits. -/
def readShort (positive : Bool) (n : Nat) (s : Bytes) : Except Fault (Number × Bytes) :=
  match s with
  | b :: rest =>
    if b = 0x2E then readFraction n 0 rest
    else if b = 0x65 || b = 0x45 then readExponent n 0 rest
    else plain
  | [] => plain
where
  plain : Except Fault (Number × Bytes) :=
    if positive then .ok (.natural n, s)
    else if n = 0 || Text.Decimal.greatestInt64 + 1 < n then .ok (.other, s)
    else .ok (.negative n, s)

/-- The digits of an integer read onto `n`. -/
def readDigits (positive : Bool) (n : Nat) : Bytes → Except Fault (Number × Bytes)
  | [] => readShort positive n []
  | b :: rest =>
    if isDigit b then
      let n' := n * 10 + digitValue b
      if n' ≤ Text.Decimal.greatestWord64 then readDigits positive n' rest
      else readLong n (b :: rest)
    else readShort positive n (b :: rest)

/-- A number behind its sign. -/
def readUnsigned (positive : Bool) : Bytes → Except Fault (Number × Bytes)
  | [] => .error .ended
  | b :: rest =>
    if b = 0x30 then
      if startsWithDigit rest then .error .illFormed else readShort positive 0 rest
    else if isDigit b then readDigits positive (digitValue b) rest
    else .error .illFormed

/-! ## Values of a shape -/

/-- The fault of a value of another shape: a word, a number or a string is read to its end
first, and its own fault comes before that of the shape. -/
def wrongShape : Bytes → Fault
  | [] => .illFormed
  | b :: rest =>
    let after := fun (x : Except Fault Bytes) => match x with
      | .ok _ => Fault.misshapen
      | .error f => f
    if b = 0x6E then after (readWord [0x75, 0x6C, 0x6C] rest)
    else if b = 0x74 then after (readWord [0x72, 0x75, 0x65] rest)
    else if b = 0x66 then after (readWord [0x61, 0x6C, 0x73, 0x65] rest)
    else if b = 0x2D then after ((readUnsigned false rest).map (·.2))
    else if isDigit b then after ((readUnsigned true (b :: rest)).map (·.2))
    else if b = quoteMark then after ((readStringRest rest).map (·.2))
    else if b = openBracket || b = openBrace then .misshapen
    else .illFormed

/-- A string. -/
def readString : Reader String := fun s =>
  match skipSpace s with
  | [] => .error .ended
  | b :: rest => if b = quoteMark then readStringRest rest else .error (wrongShape (b :: rest))

/-- A number, or the fault of what is none. -/
def readNumber : Reader Number := fun s =>
  match skipSpace s with
  | [] => .error .ended
  | b :: rest =>
    if b = 0x2D then readUnsigned false rest
    else if isDigit b then readUnsigned true (b :: rest)
    else .error (wrongShape (b :: rest))

/-- An integer from `-(limit + 1)` to `limit`. -/
def readInt (limit : Nat) : Reader Int := fun s => do
  match ← readNumber s with
  | (.natural n, rest) => if n ≤ limit then return (n, rest) else throw .misshapen
  | (.negative n, rest) => if n ≤ limit + 1 then return (-n, rest) else throw .misshapen
  | (.other, _) => throw .misshapen

/-- A natural number of at most 64 bits. -/
def readNat : Reader Nat := fun s => do
  match ← readNumber s with
  | (.natural n, rest) => return (n, rest)
  | _ => throw .misshapen

/-! ## Lists -/

/-- Whether a list goes on with an item, and the input from that item on. -/
def nextItem (first : Bool) (s : Bytes) : Except Fault (Bool × Bytes) :=
  match skipSpace s with
  | [] => .error .ended
  | b :: rest =>
    if b = closeBracket then .ok (false, b :: rest)
    else if first then .ok (true, b :: rest)
    else if b = comma then
      match skipSpace rest with
      | [] => .error .ended
      | b :: rest => if b = closeBracket then .error .illFormed else .ok (true, b :: rest)
    else .error .illFormed

/-- The end of a list of which enough has been read. -/
def endList (s : Bytes) : Except Fault Bytes :=
  match skipSpace s with
  | [] => .error .ended
  | b :: rest => if b = closeBracket then .ok rest else .error .illFormed

/-- Items to the end of the list; each takes a byte or more. -/
def readItems {α : Type} (item : Reader α) : (fuel : Nat) → (first : Bool) → Reader (List α)
  | 0, _, _ => .error .ended
  | fuel + 1, first, s => do
    match ← nextItem first s with
    | (false, rest) => return ([], ← endList rest)
    | (true, rest) =>
      let (a, rest) ← item rest
      let (more, rest) ← readItems item fuel false rest
      return (a :: more, rest)

/-- A list. -/
def readList {α : Type} (item : Reader α) : Reader (List α) := fun s =>
  match skipSpace s with
  | [] => .error .ended
  | b :: rest =>
    if b = openBracket then readItems item (rest.length + 1) true rest
    else .error (wrongShape (b :: rest))

/-! ## Objects -/

/-- Whether an object goes on with a field, and the input behind the quote of its name. -/
def nextField (first : Bool) (s : Bytes) : Except Fault (Bool × Bytes) :=
  match skipSpace s with
  | [] => .error .ended
  | b :: rest =>
    if b = closeBrace then .ok (false, b :: rest)
    else if first then name b rest
    else if b = comma then
      match skipSpace rest with
      | [] => .error .ended
      | b :: rest => name b rest
    else .error .illFormed
where
  name (b : UInt8) (rest : Bytes) : Except Fault (Bool × Bytes) :=
    if b = quoteMark then .ok (true, rest) else .error .illFormed

/-- The colon behind a field's name. -/
def readColon (s : Bytes) : Except Fault Bytes :=
  match skipSpace s with
  | [] => .error .ended
  | b :: rest => if b = colon then .ok rest else .error .illFormed

/-- The end of an object. -/
def endObject (s : Bytes) : Except Fault Bytes :=
  match skipSpace s with
  | [] => .error .ended
  | b :: rest => if b = closeBrace then .ok rest else .error .illFormed

/-- Fields to the end of the object, gathered in `gathered`: `field` takes a field by its
name, from the colon on. -/
def readFields {σ : Type} (field : String → σ → Reader σ) :
    (fuel : Nat) → (first : Bool) → σ → Reader σ
  | 0, _, _, _ => .error .ended
  | fuel + 1, first, gathered, s => do
    match ← nextField first s with
    | (false, rest) => return (gathered, rest)
    | (true, rest) =>
      let (name, rest) ← readStringRest rest
      let (gathered, rest) ← field name gathered rest
      readFields field fuel false gathered rest

/-- The whole text is one value. -/
def readWhole {α : Type} (value : Reader α) (s : Bytes) : Except Fault α := do
  let (a, rest) ← value s
  if (skipSpace rest).isEmpty then return a else throw .illFormed

/-! ## Passing values over -/

/-- An escape in a string that is passed over. -/
def skipEscape : Bytes → Except Fault Bytes
  | [] => .error .ended
  | b :: rest =>
    if b = 0x75 then (readHex4 rest).map (·.2)
    else if (shortEscape? b).isSome then .ok rest
    else .error .illFormed

/-- A string behind its opening quote: escapes are well formed and controls do not stand raw,
but halves of a character and bytes that spell none pass. -/
def skipString : (fuel : Nat) → Bytes → Except Fault Bytes
  | 0, _ => .error .ended
  | _ + 1, [] => .error .ended
  | fuel + 1, b :: rest =>
    if b = quoteMark then .ok rest
    else if b = backslash then do skipString fuel (← skipEscape rest)
    else if b < 0x20 then .error .illFormed
    else skipString fuel rest

/-- Digits, at least one; here the end of the input is a missing digit. -/
def skipDigits (s : Bytes) : Except Fault Bytes :=
  if startsWithDigit s then .ok (s.dropWhile isDigit) else .error .illFormed

def skipExponent (s : Bytes) : Except Fault Bytes :=
  match s with
  | b :: rest =>
    if b = 0x65 || b = 0x45 then
      match rest with
      | 0x2B :: rest => skipDigits rest
      | 0x2D :: rest => skipDigits rest
      | _ => skipDigits rest
    else .ok s
  | [] => .ok s

/-- A number behind its sign, of any size. -/
def skipUnsigned (s : Bytes) : Except Fault Bytes := do
  let rest ← match s with
    | 0x30 :: rest => if startsWithDigit rest then throw .illFormed else pure rest
    | _ => skipDigits s
  match rest with
  | 0x2E :: rest => skipExponent (← skipDigits rest)
  | _ => skipExponent rest

/-- Behind a value inside brackets (`true` for braces, the innermost first): closes what ends
here and goes on to the next value.  Nothing is left to pass over when the last bracket
closes. -/
def skipOn : (fuel : Nat) → (afterValue : Bool) → List Bool → Bytes →
    Except Fault (Option (List Bool) × Bytes)
  | _, _, [], s => .ok (none, s)
  | 0, _, _, _ => .error .ended
  | fuel + 1, afterValue, brace :: outer, s =>
    match skipSpace s with
    | [] => .error .ended
    | b :: rest =>
      if b = (if brace then closeBrace else closeBracket) then skipOn fuel true outer rest
      else if !afterValue then nextValue brace outer (b :: rest)
      else if b = comma then nextValue brace outer rest
      else .error .illFormed
where
  /-- The input from the next value on, behind its name if it has one. -/
  nextValue (brace : Bool) (outer : List Bool) (s : Bytes) :
      Except Fault (Option (List Bool) × Bytes) :=
    if !brace then .ok (some (brace :: outer), s)
    else match skipSpace s with
      | [] => .error .ended
      | b :: rest =>
        if b ≠ quoteMark then .error .illFormed
        else do
          let rest ← skipString (rest.length + 1) rest
          return (some (brace :: outer), ← readColon rest)

/-- One value inside the brackets that are open, and all behind it to the last bracket. -/
def skipNested : (fuel : Nat) → List Bool → Bytes → Except Fault Bytes
  | 0, _, _ => .error .ended
  | fuel + 1, stack, s =>
    match skipSpace s with
    | [] => .error .ended
    | b :: rest => do
      let (afterValue, stack, rest) ←
        if b = 0x6E then (true, stack, ·) <$> readWord [0x75, 0x6C, 0x6C] rest
        else if b = 0x74 then (true, stack, ·) <$> readWord [0x72, 0x75, 0x65] rest
        else if b = 0x66 then (true, stack, ·) <$> readWord [0x61, 0x6C, 0x73, 0x65] rest
        else if b = 0x2D then (true, stack, ·) <$> skipUnsigned rest
        else if isDigit b then (true, stack, ·) <$> skipUnsigned (b :: rest)
        else if b = quoteMark then (true, stack, ·) <$> skipString (rest.length + 1) rest
        else if b = openBracket then pure (false, false :: stack, rest)
        else if b = openBrace then pure (false, true :: stack, rest)
        else throw .illFormed
      match ← skipOn (rest.length + 1) afterValue stack rest with
      | (none, rest) => return rest
      | (some stack, rest) => skipNested fuel stack rest

/-- Passes one value over. -/
def skipValue (s : Bytes) : Except Fault Bytes := skipNested (s.length + 1) [] s

end Replica.Json
