/-
# Addresses of machines

Internet addresses of both versions as text, and the address of a socket.
-/

import Replica.Text.Decimal
import Replica.Text.Hex

namespace Replica.Net

/-- One of the four numbers of an address: one to three digits, no zero in front of others,
at most 255. -/
def readOctet (s : List Char) : Option (Nat × List Char) :=
  let digits := s.takeWhile fun c => '0' ≤ c && c ≤ '9'
  match Text.Decimal.readDigits 255 .tooLarge 0 digits with
  | .ok n =>
    if digits.isEmpty || digits.length > 3 || (digits.length > 1 && digits.head? = some '0') then
      none
    else some (n, s.drop digits.length)
  | .error _ => none

/-- Four numbers between dots. -/
def readIpv4 (s : List Char) : Option ((Nat × Nat × Nat × Nat) × List Char) := do
  let (a, s) ← readOctet s
  let (b, s) ← dotted s
  let (c, s) ← dotted s
  let (d, s) ← dotted s
  return ((a, b, c, d), s)
where
  dotted : List Char → Option (Nat × List Char)
    | '.' :: s => readOctet s
    | _ => none

/-- A group of up to four hexadecimal digits. -/
def readGroup (s : List Char) : Option (Nat × List Char) :=
  let digits := s.takeWhile fun c => (Text.hexValue? c).isSome
  if digits.isEmpty || digits.length > 4 then none
  else some (digits.foldl (fun n c => n * 16 + (Text.hexValue? c).getD 0) 0, s.drop digits.length)

/-- At most `left` groups between colons, and whether the last two were written as an address
of four numbers. -/
def readGroups : (left : Nat) → (first : Bool) → List Char → List Nat × Bool × List Char
  | 0, _, s => ([], false, s)
  | left + 1, first, s =>
    match (if first then some s else match s with
      | ':' :: rest => some rest
      | _ => none) with
    | none => ([], false, s)
    | some t =>
      match (if left = 0 then none else readIpv4 t) with
      | some ((a, b, c, d), rest) => ([a * 256 + b, c * 256 + d], true, rest)
      | none =>
        match readGroup t with
        | none => ([], false, s)
        | some (g, rest) =>
          let (more, four, rest) := readGroups left false rest
          (g :: more, four, rest)

/-- Eight groups, of which a double colon stands for those of zeros that are left out. -/
def readIpv6 (s : List Char) : Option (List Nat × List Char) :=
  let (head, four, rest) := readGroups 8 true s
  if head.length = 8 then some (head, rest)
  else if four then none
  else match rest with
    | ':' :: ':' :: rest =>
      let (tail, _, rest) := readGroups (7 - head.length) true rest
      some (head ++ List.replicate (8 - head.length - tail.length) 0 ++ tail, rest)
    | _ => none

/-! ## Writing -/

def ipv4Text (a b c d : Nat) : String :=
  ".".intercalate ([a, b, c, d].map Text.Decimal.ofNat)

/-- The digits of a group. -/
def groupText (n : Nat) : String := String.ofList (Nat.toDigits 16 n)

/-- How many zeros stand in front. -/
def zerosInFront (groups : List Nat) : Nat := (groups.takeWhile (· = 0)).length

/-- Where the first longest run of zeros begins, and its length. -/
def longestZeros : (index : Nat) → List Nat → Nat × Nat
  | _, [] => (0, 0)
  | index, g :: rest =>
    let here := zerosInFront (g :: rest)
    let (start, length) := longestZeros (index + 1) rest
    if here > 0 && length ≤ here then (index, here) else (start, length)

/-- Eight groups, the first longest run of two zeros or more as a double colon. -/
def ipv6Text (groups : List Nat) : String :=
  let (start, length) := longestZeros 0 groups
  let joined := fun (l : List Nat) => ":".intercalate (l.map groupText)
  if length < 2 then joined groups
  else joined (groups.take start) ++ "::" ++ joined (groups.drop (start + length))

/-! ## Sockets -/

/-- The address of a machine. -/
inductive Ip where
  | four (a b c d : Nat)
  | six (groups : List Nat)
deriving DecidableEq, Repr

/-- The address of a socket. -/
structure SocketAddress where
  ip : Ip
  port : Nat
deriving DecidableEq, Repr

/-- A colon and a port of 16 bits, and nothing behind it. -/
def readPort : List Char → Option Nat
  | ':' :: digits =>
    if digits.isEmpty then none
    else (Text.Decimal.readDigits 65535 .tooLarge 0 digits).toOption
  | _ => none

/-- Without the scope of an address, a number behind a percent sign. -/
def skipScope : List Char → Option (List Char)
  | '%' :: rest =>
    let digits := rest.takeWhile fun c => '0' ≤ c && c ≤ '9'
    match Text.Decimal.readDigits Text.Decimal.greatestWord32 .tooLarge 0 digits with
    | .ok _ => if digits.isEmpty then none else some (rest.drop digits.length)
    | .error _ => none
  | s => some s

/-- The address of a socket: four numbers, or groups in brackets, and a port. -/
def SocketAddress.ofText? (s : String) : Option SocketAddress :=
  match s.toList with
  | '[' :: rest => do
    let (groups, rest) ← readIpv6 rest
    match ← skipScope rest with
    | ']' :: rest => return ⟨.six groups, ← readPort rest⟩
    | _ => none
  | s => do
    let ((a, b, c, d), rest) ← readIpv4 s
    return ⟨.four a b c d, ← readPort rest⟩

end Replica.Net
