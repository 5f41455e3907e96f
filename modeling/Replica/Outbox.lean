/-
# The outbox of a peer

A queue of records for one peer and the sender that empties it.  The sender collects a batch
until it is full or its window is over, calls the peer with it, and after a failure waits and
calls again with the same batch, each time twice as long, until the delay would pass its cap;
then it gives the batch up.  A window that brought nothing is followed by a rest.

The sender is a machine without a clock of its own: `resume` lets it go on at a moment, and
`answered` tells it what came of its call.
-/

import Replica.Backoff
import Replica.Reception
import Replica.Settings

namespace Replica

/-- What a sender is at. -/
inductive Phase where
  /-- It has not begun. -/
  | fresh
  | collecting (batch : List String) (deadline : Moment)
  /-- Nothing came; it looks at its queue again at a moment. -/
  | resting (wakes : Moment)
  /-- A call is in flight. -/
  | calling (batch : List String)
  /-- A call failed; it is made again at a moment. -/
  | retrying (batch : List String) (wakes : Moment)
  | stopped
deriving DecidableEq, Repr

/-- A queue of records for one peer and its sender. -/
structure Outbox where
  address : String
  settings : SenderSettings
  queue : List String := []
  backoff : Backoff
  phase : Phase := .fresh
  /-- Whether the sender has been told to stop. -/
  stopping : Bool := false
deriving DecidableEq

namespace Outbox

def new (address : String) (settings : SenderSettings) : Outbox :=
  { address, settings, backoff := .new settings.backoffUnit settings.backoffCap }

/-- How many records may wait. -/
def places (o : Outbox) : Nat := max o.settings.queueCapacity 1

/-- Queues a record without waiting; a full queue refuses it. -/
def offer (o : Outbox) (record : String) : Except Error Outbox :=
  if o.stopping || o.phase = .stopped then .error .closed
  else if o.queue.length < o.places then .ok { o with queue := o.queue ++ [record] }
  else .error .queueFull

/-- Queues a record if there is room. -/
def offerAny (o : Outbox) (record : String) : Outbox :=
  match o.offer record with
  | .ok o => o
  | .error _ => o

/-- Tells the sender to stop as soon as it would wait. -/
def stop (o : Outbox) : Outbox := { o with stopping := true }

/-- Ends the sender. -/
def halt (o : Outbox) : Outbox := { o with phase := .stopped }

/-- Moves records from the queue to the batch as far as they fit. -/
def fill (o : Outbox) (batch : List String) : List String × Outbox :=
  let room := o.settings.maxBatch - batch.length
  (batch ++ o.queue.take room, { o with queue := o.queue.drop room })

/-- Goes on collecting: a batch that is full or whose window is over is called with, and an
empty one is followed by a rest. -/
def collect (o : Outbox) (now : Moment) (batch : List String) (deadline : Moment) : Outbox :=
  let (batch, o) := o.fill batch
  if o.settings.maxBatch ≤ batch.length || deadline ≤ now then
    if batch.isEmpty then { o with phase := .resting (now + o.settings.idlePause.nanos) }
    else { o with phase := .calling batch }
  else { o with phase := .collecting batch deadline }

/-- Begins a new batch. -/
def begin (o : Outbox) (now : Moment) : Outbox :=
  o.collect now [] (now + o.settings.batchWindow.nanos)

/-- Lets the sender go on: it does what is due, up to its next wait or call. -/
def resume (o : Outbox) (now : Moment) : Outbox :=
  match o.phase with
  | .calling _ | .stopped => o
  | phase =>
    if o.stopping then o.halt
    else match phase with
      | .fresh => o.begin now
      | .collecting batch deadline => o.collect now batch deadline
      | .resting wakes => if wakes ≤ now then o.begin now else o
      | .retrying batch wakes => if wakes ≤ now then { o with phase := .calling batch } else o
      | .calling _ | .stopped => o

/-- What a call with a batch has come to: all of the records were made here, so a peer that took
fewer has failed. -/
def verdict (batch : List String) : Except Error Nat → Except Error Nat
  | .ok accepted =>
    if accepted < batch.length then .error (.partialPush accepted batch.length) else .ok accepted
  | .error e => .error e

/-- Whether a peer took a whole batch. -/
def tookAll (batch : List String) (result : Except Error Nat) : Bool :=
  (verdict batch result).toOption.isSome

/-- Goes on to the next batch, or ends if the sender has been told to stop. -/
def proceed (o : Outbox) (now : Moment) : Outbox := if o.stopping then o.halt else o.begin now

/-- Ends the call in flight.  A batch that was taken, or given up, is followed by the next one
with the delay back at its unit. -/
def answered (o : Outbox) (now : Moment) (result : Except Error Nat) : Outbox :=
  match o.phase with
  | .calling batch =>
    if tookAll batch result then { o with backoff := o.backoff.reset }.proceed now
    else match o.backoff.next with
      | (some delay, backoff) =>
        if o.stopping then o.halt
        else { o with backoff, phase := .retrying batch (now + delay.nanos) }
      | (none, backoff) => { o with backoff := backoff.reset }.proceed now
  | _ => o

/-- When the sender has to go on by itself. -/
def alarm? (o : Outbox) : Option Moment :=
  match o.phase with
  | .collecting _ deadline => some deadline
  | .resting wakes => some wakes
  | .retrying _ wakes => some wakes
  | _ => none

/-- The batch of the call in flight. -/
def inFlight? (o : Outbox) : Option (List String) :=
  match o.phase with
  | .calling batch => some batch
  | _ => none

end Outbox

end Replica
