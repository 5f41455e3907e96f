/-
# An outbox before a scripted peer

One outbox on a clock of its own, whose calls meet what a script says: the first call the first
entry, and so on.  Calls beyond the script are taken at once.
-/

import Replica.Outbox

namespace Replica

/-- A call that was made. -/
structure CallMade where
  moment : Moment
  address : String
  records : List String
deriving DecidableEq, Repr

/-- An outbox on a clock of its own. -/
structure Rehearsal where
  outbox : Outbox
  script : List Reception := []
  now : Moment := 0
  /-- When the call in flight ends, and how. -/
  pending : Option (Moment × Except Error Nat) := none
  /-- The calls made, the last one first. -/
  calls : List CallMade := []

namespace Rehearsal

/-- Starts the call that the outbox wants to make, if there is one. -/
def startCall (r : Rehearsal) : Rehearsal :=
  match r.outbox.inFlight?, r.pending with
  | some batch, none =>
    let reception := r.script.headD {}
    { r with
      script := r.script.drop 1
      pending := some (endOfCall r.now r.outbox.settings.callLimit (reception.arrival r.now)
        (reception.outcome batch.length))
      calls := ⟨r.now, r.outbox.address, batch⟩ :: r.calls }
  | _, _ => r

/-- Lets the outbox go on now. -/
def settle (r : Rehearsal) : Rehearsal := startCall { r with outbox := r.outbox.resume r.now }

/-- The next moment at which something happens. -/
def nextEvent? (r : Rehearsal) : Option Moment :=
  match r.pending with
  | some (t, _) => some t
  | none => r.outbox.alarm?

/-- What happens at a moment: the call in flight ends, or the outbox goes on. -/
def happen (r : Rehearsal) (t : Moment) : Rehearsal :=
  let r := { r with now := t }
  match r.pending with
  | some (ends, result) =>
    if ends ≤ t then
      settle { r with pending := none, outbox := r.outbox.answered t result }
    else r
  | none => r.settle

/-- Runs up to a moment, with at most `fuel` events on the way. -/
def runTo (stop : Moment) : (fuel : Nat) → Rehearsal → Rehearsal
  | 0, r => { r with now := stop }
  | fuel + 1, r =>
    match r.nextEvent? with
    | some t => if t < stop then runTo stop fuel (r.happen t) else { r with now := stop }
    | none => { r with now := stop }

/-- How many events a run may have. -/
def enough : Nat := 1000000

/-- Lets some time pass. -/
def sleep (r : Rehearsal) (span : Span) : Rehearsal :=
  runTo (r.now + span.nanos) enough r.settle

/-- Tells the sender to stop and waits for it: a call in flight ends first. -/
def shutdown (r : Rehearsal) : Rehearsal :=
  let r := settle { r with outbox := r.outbox.stop }
  match r.pending with
  | some (t, _) => r.happen t
  | none => r

/-- Offers records one by one. -/
def push (r : Rehearsal) : List String → List (Except Error Unit) × Rehearsal
  | [] => ([], r)
  | record :: rest =>
    match r.outbox.offer record with
    | .ok outbox =>
      let (results, r) := push { r with outbox } rest
      (.ok () :: results, r)
    | .error e =>
      let (results, r) := r.push rest
      (.error e :: results, r)

/-- The calls made since the last time, and a clean list. -/
def takeCalls (r : Rehearsal) : List CallMade × Rehearsal :=
  (r.calls.reverse, { r with calls := [] })

end Rehearsal

end Replica
