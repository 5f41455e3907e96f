/-
# Notices of change

Whoever watches a key holds a ticket and hears of the next change of the key, once.  Tickets
are numbered in the order they are drawn; those of a key wait together, and one change serves
them all.  A ticket that is given up still waits until then, but nobody is told.
-/

import Replica.Dict
import Replica.Store

namespace Replica

/-- What the holder of a ticket finds. -/
inductive Slip where
  /-- No change yet. -/
  | waiting
  | told (change : Change)
  /-- Nothing will come: it has been told already, or there is nobody to tell it. -/
  | closed
deriving DecidableEq, Repr

/-- The tickets of all keys. -/
structure Notices where
  /-- The tickets drawn so far. -/
  drawn : Nat := 0
  /-- The tickets that wait, by key, in the order they were drawn. -/
  waiting : Dict (List Nat) := .empty
  /-- The tickets that were given up. -/
  given : List Nat := []
  /-- What tickets have been told and their holders have not taken. -/
  told : List (Nat × Change) := []
deriving DecidableEq

namespace Notices

instance : Inhabited Notices := ⟨{}⟩

/-- The tickets that wait for a key. -/
def waitingFor (n : Notices) (key : String) : List Nat := (n.waiting.get? key).getD []

/-- How many tickets wait for a key, those given up among them. -/
def count (n : Notices) (key : String) : Nat := (n.waitingFor key).length

/-- Draws a ticket for a key. -/
def draw (n : Notices) (key : String) : Nat × Notices :=
  (n.drawn, { n with
    drawn := n.drawn + 1
    waiting := n.waiting.insert key (n.waitingFor key ++ [n.drawn]) })

/-- Gives a ticket up. -/
def giveUp (n : Notices) (ticket : Nat) : Notices :=
  { n with
    given := ticket :: n.given
    told := n.told.filter fun t => t.1 ≠ ticket }

/-- Tells a change to those who wait for its key and have not given up, and how many those
are.  No ticket waits for the key then. -/
def tell (n : Notices) (change : Change) : Nat × Notices :=
  let heard := (n.waitingFor change.key).filter fun t => !n.given.contains t
  (heard.length, { n with
    waiting := n.waiting.erase change.key
    told := n.told ++ heard.map fun t => (t, change) })

/-- Tells a change if there is one. -/
def tellAny (n : Notices) (change : Option Change) : Notices :=
  match change with
  | some c => (n.tell c).2
  | none => n

/-- Nobody is left who could tell a change. -/
def close (n : Notices) : Notices := { n with waiting := .empty }

/-- Whether a ticket waits. -/
def isWaiting (n : Notices) (ticket : Nat) : Bool :=
  n.waiting.values.any fun tickets => tickets.contains ticket

/-- What a ticket has been told; it is told no second time. -/
def take (n : Notices) (ticket : Nat) : Slip × Notices :=
  match n.told.find? fun t => t.1 = ticket with
  | some (_, change) => (.told change, { n with told := n.told.filter fun t => t.1 ≠ ticket })
  | none => (if n.isWaiting ticket then .waiting else .closed, n)

end Notices

end Replica
