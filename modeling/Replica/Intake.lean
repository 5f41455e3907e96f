/-
# The intake of a node

The queue in front of the pipeline.  Requests leave it in the order they came, and **it holds
no more than its capacity**, of which one place at least there always is.  Whoever would rather
wait than be refused is promised the next place that becomes free; a promised place counts as
taken.
-/

import Replica.Error

namespace Replica

structure Intake where
  capacity : Nat
  queue : List Request := []
  /-- Places promised to those who waited and have not come yet. -/
  promised : Nat := 0
  closed : Bool := false
deriving DecidableEq, Repr

namespace Intake

/-- How many places there are. -/
def places (i : Intake) : Nat := max i.capacity 1

/-- Whether somebody may come in. -/
def hasRoom (i : Intake) : Bool := i.queue.length + i.promised < i.places

/-- Puts a request at the end of the queue. -/
def enqueue (i : Intake) (r : Request) : Intake := { i with queue := i.queue ++ [r] }

/-- Takes a request in without waiting. -/
def submit (i : Intake) (r : Request) : Except Error Intake :=
  if i.closed then .error .closed
  else if i.hasRoom then .ok (i.enqueue r)
  else .error .queueFull

/-- Promises the place that has become free. -/
def promise (i : Intake) : Intake := { i with promised := i.promised + 1 }

/-- Takes in the request of somebody who waited. -/
def keepPromise (i : Intake) (r : Request) : Intake :=
  { i.enqueue r with promised := i.promised - 1 }

/-- Forgets a promise. -/
def breakPromise (i : Intake) : Intake := { i with promised := i.promised - 1 }

/-- The next request for the pipeline. -/
def next? (i : Intake) : Option (Request × Intake) :=
  match i.queue with
  | [] => none
  | r :: rest => some (r, { i with queue := rest })

/-- Takes no more requests. -/
def close (i : Intake) : Intake := { i with closed := true }

end Intake

end Replica
