/-
# How large a pattern is

A few characters can ask for an automaton of any size, so what is too large is refused.  The
size is that of the automaton that reads a text backwards, byte by byte: a state for each byte
of a character, and for a set **one state for each beginning of the bytes of its characters**,
taken in stretches in which each byte runs through a range of its own.
-/

import Replica.Pattern.Expr
import Replica.Text.Bytes

namespace Replica.Pattern

/-- The bytes that an automaton may take. -/
def sizeLimit : Nat := 10485760

/-- The bytes of a state. -/
def stateSize : Nat := 32

/-- The bytes of one of the ways on from a state that has several. -/
def waySize : Nat := 4

/-- The bytes of a way that is taken for a range. -/
def rangeSize : Nat := 8

/-! ## Stretches -/

/-- Where a range of code points ends in which not every byte runs through a range of its own,
so that it has to be cut there. -/
def cut? (low high : Nat) : Option Nat :=
  match [0x7F, 0x7FF, 0xFFFF].find? fun last => low ≤ last && last < high with
  | some last => some last
  | none =>
    if high ≤ 0x7F then none
    else [64, 4096, 262144].findSome? fun unit =>
      if low / unit = high / unit then none
      else if low % unit ≠ 0 then some (low / unit * unit + unit - 1)
      else if high % unit ≠ unit - 1 then some (high / unit * unit - 1)
      else none

/-- The stretches of a range, cut at most `fuel` times one within another. -/
def stretches : (fuel : Nat) → Nat → Nat → List (Nat × Nat)
  | 0, low, high => [(low, high)]
  | fuel + 1, low, high =>
    match cut? low high with
    | none => [(low, high)]
    | some last => stretches fuel low last ++ stretches fuel (last + 1) high

/-- The bytes of a code point. -/
def bytesOf (n : Nat) : Bytes := Text.utf8 (String.singleton (Char.ofNat n))

/-- How many beginnings of the second differ from those of the first. -/
def newBeginnings {α : Type} [DecidableEq α] : List α → List α → Nat
  | a :: before, b :: after => if a = b then newBeginnings before after else after.length + 1
  | _, after => after.length

/-- The beginnings of a list of words in order, those that follow each other told apart. -/
def beginnings {α : Type} [DecidableEq α] : (before : List α) → List (List α) → Nat
  | _, [] => 0
  | before, word :: words => newBeginnings before word + beginnings word words

/-! ## Sizes -/

/-- The size of a set. -/
def setSize (s : CharSet) : Nat :=
  match s.ranges with
  | [] => stateSize
  | [(low, high)] =>
    if low = high then (bytesOf low).length * stateSize else rangesSize s.ranges
  | ranges => rangesSize ranges
where
  rangesSize (ranges : List (Nat × Nat)) : Nat :=
    if ranges.all fun r => r.2 < 0x80 then 2 * stateSize + ranges.length * rangeSize
    else
      let words := (ranges.flatMap fun r => stretches 16 r.1 r.2).map fun r =>
        (bytesOf r.1).zip (bytesOf r.2)
      (2 + beginnings [] words) * stateSize + words.length * waySize

/-- Whether a pattern matches nothing but places. -/
def Expr.takesNothing : Expr → Bool
  | .empty => true
  | .chars _ => false
  | .look _ => true
  | .seq e f => e.takesNothing && f.takesNothing
  | .alt e f => e.takesNothing && f.takesNothing
  | .rep e _ most => most = some 0 || e.takesNothing

/-- The size of a pattern.  Each copy in a repetition counts, but of what matches only places
one is enough. -/
def Expr.size : Expr → Nat
  | .empty => stateSize
  | .chars set => setSize set
  | .look _ => stateSize
  | .seq e f => e.size + f.size
  | .alt e f => e.size + f.size + 2 * (stateSize + waySize)
  | .rep e least most =>
    let optional := stateSize + 2 * waySize
    if e.takesNothing then e.size + optional
    else match most with
      | none => max least 1 * e.size + optional
      | some most => most * e.size + (most - least) * optional

end Replica.Pattern
