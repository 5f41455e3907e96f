/-
# Versions

A write is stamped with a number that says when, where and which:
`millis * 1000000 + node * 1000 + count`.  Higher wins, so versions of one clock reading are
told apart by node first and by count second.  The count belongs to the ticker, not to the
millisecond: **it goes on from stamp to stamp and returns to 0 after 999**.
-/

namespace Replica

/-- The stamp of a write, which also names it. -/
abbrev Version := Int64

namespace Version

/-- The stamp of a reading of the clock, a node and a count. -/
def ofParts (millis node count : Int64) : Version := millis * 1000000 + node * 1000 + count

/-- Reading, node and count.  Quotients are cut toward zero, so that the parts of a negative
version are negative too. -/
def parts (v : Version) : Int64 × Int64 × Int64 :=
  (v / 1000000, v % 1000000 / 1000, v % 1000)

end Version

/-- What stamps the writes of one node. -/
structure Ticker where
  node : Fin 1000
  /-- The count of the last stamp. -/
  count : Fin 1000
deriving DecidableEq, Repr

namespace Ticker

/-- A ticker that has stamped nothing. -/
def new (node : Fin 1000) : Ticker := ⟨node, 0⟩

/-- The ticker of a node; node numbers go up to 999. -/
def ofNode? (node : UInt32) : Option Ticker :=
  if h : node.toNat < 1000 then some (.new ⟨node.toNat, h⟩) else none

/-- The stamp of a write made when the clock reads `millis`. -/
def next (t : Ticker) (millis : Int64) : Version × Ticker :=
  let count := t.count + 1
  (Version.ofParts millis (Int64.ofNat t.node) (Int64.ofNat count), { t with count })

/-- The stamps of `n` writes at one reading, in order, put behind those of `acc`. -/
def stamps (millis : Int64) : Nat → Ticker → List Version × Ticker
  | 0, t => ([], t)
  | n + 1, t =>
    let (v, t) := t.next millis
    let (vs, t) := stamps millis n t
    (v :: vs, t)

theorem length_stamps (millis : Int64) (n : Nat) (t : Ticker) :
    (stamps millis n t).1.length = n := by
  induction n generalizing t with
  | zero => rfl
  | succ n ih => simp [stamps, ih]

end Ticker

end Replica
