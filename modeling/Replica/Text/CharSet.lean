/-
# Sets of characters

A set of code points as an ascending list of closed ranges that neither overlap nor touch.
Surrogates are no characters: `compl` leaves them out.
-/

namespace Replica

/-- Closed ranges of code points, ascending. -/
structure CharSet where
  ranges : List (Nat × Nat)
deriving DecidableEq, Repr, Inhabited

namespace CharSet

/-- No character. -/
def empty : CharSet := ⟨[]⟩

/-- Every character. -/
def all : CharSet := ⟨[(0, 0xD7FF), (0xE000, 0x10FFFF)]⟩

/-- Whether a code point lies in one of the ranges; the search stops at the first range that
begins above it. -/
def mem (n : Nat) : List (Nat × Nat) → Bool
  | [] => false
  | (low, high) :: rest => if n < low then false else if n ≤ high then true else mem n rest

def contains (s : CharSet) (c : Char) : Bool := mem c.toNat s.ranges

def isEmpty (s : CharSet) : Bool := s.ranges.isEmpty

/-- Joins ranges that overlap or touch, in a list that ascends by its lower ends. -/
def join : List (Nat × Nat) → List (Nat × Nat)
  | [] => []
  | r :: rest =>
    match join rest with
    | [] => [r]
    | s :: more => if s.1 ≤ r.2 + 1 then (r.1, max r.2 s.2) :: more else r :: s :: more

/-- The set of any list of ranges; a range whose ends are reversed holds nothing. -/
def ofRanges (l : List (Nat × Nat)) : CharSet :=
  ⟨join ((l.filter fun r => r.1 ≤ r.2).mergeSort fun r s => r.1 ≤ s.1)⟩

def singleton (c : Char) : CharSet := ⟨[(c.toNat, c.toNat)]⟩

def union (s t : CharSet) : CharSet := ofRanges (s.ranges ++ t.ranges)

/-- The gaps between ranges, from `start` up to U+10FFFF. -/
def gaps (start : Nat) : List (Nat × Nat) → List (Nat × Nat)
  | [] => if start ≤ 0x10FFFF then [(start, 0x10FFFF)] else []
  | (low, high) :: rest =>
    if start < low then (start, low - 1) :: gaps (high + 1) rest else gaps (high + 1) rest

/-- The characters that are not in the set. -/
def compl (s : CharSet) : CharSet :=
  ⟨gaps 0 (ofRanges ((0xD800, 0xDFFF) :: s.ranges)).ranges⟩

def inter (s t : CharSet) : CharSet := (s.compl.union t.compl).compl

def diff (s t : CharSet) : CharSet := s.inter t.compl

/-- What is in exactly one of the two. -/
def symmDiff (s t : CharSet) : CharSet := (s.union t).diff (s.inter t)

/-- The number of characters. -/
def size (s : CharSet) : Nat := s.ranges.foldl (fun n r => n + (r.2 + 1 - r.1)) 0

end CharSet

end Replica
