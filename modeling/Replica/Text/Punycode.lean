/-
# Labels of ASCII for names of any characters

A label of a host name with characters beyond ASCII is written as `xn--`, its ASCII characters,
and the others as differences of their places and code points, in digits of base 36 whose
thresholds adapt (RFC 3492).
-/

namespace Replica.Text.Punycode

/-- The digit of a number below 36. -/
def digit (n : Nat) : Char := if n < 26 then Char.ofNat (97 + n) else Char.ofNat (22 + n)

/-- Divides until what is left is at most 455, and counts 36 for each division. -/
def scale : (fuel delta k : Nat) → Nat
  | 0, _, k => k
  | fuel + 1, delta, k =>
    if 455 < delta then scale fuel (delta / 35) (k + 36) else k + 36 * delta / (delta + 38)

/-- The bias after a difference, of `points` characters so far. -/
def adapt (delta points : Nat) (first : Bool) : Nat :=
  let delta := if first then delta / 700 else delta / 2
  let delta := delta + delta / points
  scale delta delta 0

/-- The least value that is not the last digit at a place. -/
def threshold (k bias : Nat) : Nat :=
  if k ≤ bias then 1 else if bias + 26 ≤ k then 26 else k - bias

/-- The digits of a difference, from place `k` on. -/
def digits (bias : Nat) : (fuel q k : Nat) → List Char
  | 0, q, _ => [digit q]
  | fuel + 1, q, k =>
    let t := threshold k bias
    if q < t then [digit q]
    else digit (t + (q - t) % (36 - t)) :: digits bias fuel ((q - t) / (36 - t)) (k + 36)

/-- What is known while differences are written. -/
structure State where
  delta : Nat
  bias : Nat
  /-- How many characters have been written. -/
  handled : Nat
  output : List Char

/-- Goes past one character of the label while the code point `n` is written. -/
def pass (basic n : Nat) (s : State) (c : Char) : State :=
  if c.toNat < n then { s with delta := s.delta + 1 }
  else if c.toNat = n then
    { delta := 0
      bias := adapt s.delta (s.handled + 1) (s.handled = basic)
      handled := s.handled + 1
      output := s.output ++ digits s.bias (s.delta + 1) s.delta 36 }
  else s

/-- Writes the characters of one code point after another, in ascending order. -/
def writeAll (label : List Char) (basic : Nat) : (n : Nat) → State → List Nat → List Char
  | _, s, [] => s.output
  | n, s, m :: rest =>
    let s := { s with delta := s.delta + (m - n) * (s.handled + 1) }
    let s := label.foldl (pass basic m) s
    writeAll label basic (m + 1) { s with delta := s.delta + 1 } rest

/-- A label in ASCII. -/
def encode (label : List Char) : List Char :=
  let basic := label.filter (·.toNat < 128)
  let others := ((label.filter (128 ≤ ·.toNat)).map (·.toNat)).mergeSort.eraseDups
  if others.isEmpty then label
  else
    let front := if basic.isEmpty then [] else basic ++ ['-']
    "xn--".toList ++ writeAll label basic.length 128 ⟨0, 72, basic.length, front⟩ others

end Replica.Text.Punycode
