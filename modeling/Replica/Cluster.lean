/-
# A cluster on one clock

Nodes that call each other by name, all on one disk and one clock that stands still while
anything can go on.  What goes on is an activity: the pipeline of a node, the sender of an
outbox, or the caller who drives the cluster from outside.  Activities take turns in the order
in which they became ready; a turn ends where the activity has to wait.  When all wait, the
clock moves to the next alarm.

A pipeline wakes when its intake gets a request, a sender when its outbox gets a record while
it collects, and either when its alarm is due.
-/

import Replica.Node

namespace Replica

/-- What takes turns. -/
inductive Activity where
  | caller
  | pipeline (node : Nat)
  | sender (node outbox : Nat)
deriving DecidableEq, Repr

/-- How far the pipeline of a node has come. -/
inductive Stage where
  | running
  /-- It has been told to stop and takes what is in the intake. -/
  | leaving
  /-- The log is closed; the senders are stopped one after another. -/
  | stopping
  | ended
deriving DecidableEq, Repr

/-- A node of the cluster. -/
structure Member where
  name : String
  node : Node
  stage : Stage := .running
  /-- Nobody holds the node any more. -/
  abandoned : Bool := false
  /-- Who waits for a place in the intake, in order. -/
  waiting : List Activity := []
  /-- Who has been promised a place and has not come yet. -/
  invited : List Activity := []

/-- What came of a push. -/
inductive PushResult where
  /-- It has not ended, or it was cut off. -/
  | pending
  | told (accepted : Nat)
  | failed (error : Error)
deriving DecidableEq, Repr

/-- A push that one node made to another. -/
structure PushMade where
  number : Nat
  moment : Moment
  source : String
  target : String
  records : List String
  result : PushResult := .pending
deriving DecidableEq, Repr

/-- Where a push in flight is. -/
inductive FlightStage where
  /-- It has not begun. -/
  | departing
  | delayed (arrives : Moment)
  | hanging
  /-- At a node, with requests that have not come in yet. -/
  | handing (target : Nat) (left : List Request) (accepted : Nat)
deriving DecidableEq, Repr

/-- A push in flight. -/
structure Flight where
  node : Nat
  outbox : Nat
  number : Nat
  address : String
  records : List String
  reception : Reception
  /-- When it is cut off. -/
  limit : Moment
  stage : FlightStage := .departing
deriving DecidableEq

/-- What became of a push in flight. -/
inductive FlightEnd where
  | goesOn (stage : FlightStage)
  | ends (result : Except Error Nat)
  | cutOff

structure Cluster where
  now : Moment := 0
  /-- What the clock of the versions reads. -/
  millis : Int64
  disk : Disk := .empty
  members : List Member := []
  /-- The numbers of the nodes that are open, by name. -/
  names : Dict Nat := .empty
  /-- What calls to an address meet. -/
  receptions : Dict Reception := .empty
  ready : List Activity := []
  /-- When activities wake by themselves, in the order this was arranged. -/
  alarms : List (Moment × Activity) := []
  flights : List Flight := []
  /-- The pushes made, the last one first. -/
  pushes : List PushMade := []
  pushCount : Nat := 0

namespace Cluster

def member? (c : Cluster) (m : Nat) : Option Member := c.members[m]?

def node? (c : Cluster) (m : Nat) : Option Node := (c.member? m).map (·.node)

def find? (c : Cluster) (name : String) : Option Nat := c.names.get? name

def setMember (c : Cluster) (m : Nat) (member : Member) : Cluster :=
  { c with members := c.members.set m member }

def setNode (c : Cluster) (m : Nat) (node : Node) : Cluster :=
  { c with members := c.members.modify m fun member => { member with node } }

/-! ## Readiness and alarms -/

/-- Makes an activity ready.  The caller needs no waking: it goes on when all else waits. -/
def wake (c : Cluster) (a : Activity) : Cluster :=
  if a = .caller || c.ready.contains a then c else { c with ready := c.ready ++ [a] }

def wakeAll (c : Cluster) (l : List Activity) : Cluster := l.foldl wake c

/-- Makes an activity go on before all others. -/
def wakeFirst (c : Cluster) (a : Activity) : Cluster :=
  { c with ready := a :: c.ready.filter (· ≠ a) }

def setAlarm (c : Cluster) (t : Moment) (a : Activity) : Cluster :=
  { c with alarms := c.alarms ++ [(t, a)] }

def cancelAlarms (c : Cluster) (a : Activity) : Cluster :=
  { c with alarms := c.alarms.filter (·.2 ≠ a) }

/-- The moment of the first alarm. -/
def nextAlarm? (c : Cluster) : Option Moment := (c.alarms.map (·.1)).min?

/-- Moves the clock to a moment and wakes whose alarm is due then. -/
def ring (c : Cluster) (t : Moment) : Cluster :=
  let (due, later) := c.alarms.partition (·.1 ≤ t)
  wakeAll { c with now := t, alarms := later } (due.map (·.2))

/-! ## Coming into an intake -/

/-- What becomes of a request at an intake. -/
inductive Entry where
  | entered
  | refused
  /-- There is no room; the activity waits. -/
  | waits

/-- Lets an activity put a request into the intake of a node, or wait for a place. -/
def enter (c : Cluster) (who : Activity) (m : Nat) (r : Request) : Entry × Cluster :=
  match c.member? m with
  | none => (.refused, c)
  | some member =>
    let intake := member.node.intake
    let entered := fun (intake : Intake) (member : Member) =>
      (Entry.entered, (c.setMember m { member with node := { member.node with intake } }).wake
        (.pipeline m))
    if member.invited.contains who then
      entered (intake.keepPromise r) { member with invited := member.invited.erase who }
    else if intake.closed then
      (.refused, c.setMember m { member with waiting := member.waiting.erase who })
    else if intake.hasRoom then entered (intake.enqueue r) member
    else if member.waiting.contains who then (.waits, c)
    else (.waits, c.setMember m { member with waiting := member.waiting ++ [who] })

/-- Withdraws an activity from where it waits for a place. -/
def withdraw (c : Cluster) (who : Activity) (m : Nat) : Cluster :=
  match c.member? m with
  | none => c
  | some member =>
    let promised := member.invited.contains who
    c.setMember m { member with
      waiting := member.waiting.erase who
      invited := member.invited.erase who
      node := if promised then
          { member.node with intake := member.node.intake.breakPromise }
        else member.node }

/-- What became of requests that were handed over one by one. -/
inductive Handover where
  | all (accepted : Nat)
  | refused
  | waits (left : List Request) (accepted : Nat)

/-- Hands requests over to a node as far as its intake takes them. -/
def handOver (who : Activity) (m : Nat) : List Request → (accepted : Nat) → Cluster →
    Handover × Cluster
  | [], accepted, c => (.all accepted, c)
  | r :: rest, accepted, c =>
    match c.enter who m r with
    | (.entered, c) => handOver who m rest (accepted + 1) c
    | (.refused, c) => (.refused, c)
    | (.waits, c) => (.waits (r :: rest) accepted, c)

/-! ## The turn of a pipeline -/

/-- The senders that wake when outboxes have changed from `before` to `after`. -/
def awakened (m : Nat) (before after : List Outbox) : List Activity :=
  ((before.zip after).zipIdx.filter fun ((b, a), _) =>
    b.queue.length < a.queue.length && (match b.phase with
      | .collecting .. => true
      | _ => false)).map fun (_, i) => .sender m i

/-- Promises the place that has become free to whoever waits first. -/
def invite (c : Cluster) (m : Nat) : Cluster :=
  match c.member? m with
  | none => c
  | some member =>
    match member.waiting with
    | [] => c
    | who :: waiting =>
      (c.setMember m { member with
        waiting
        invited := member.invited ++ [who]
        node := { member.node with intake := member.node.intake.promise } }).wake who

/-- Processes the next request of a node, if there is one. -/
def processNext (c : Cluster) (m : Nat) : Cluster :=
  match c.node? m with
  | none => c
  | some before =>
    match before.advance? c.disk with
    | none => c
    | some (after, disk) =>
      let c := { c with disk }.setNode m after
      (c.invite m).wakeAll (awakened m before.outboxes after.outboxes)

/-- Processes so many requests. -/
def processMany (m : Nat) : Nat → Cluster → Cluster
  | 0, c => c
  | n + 1, c => processMany m n (c.processNext m)

/-- Tells the first sender that still runs to stop; when none does, the pipeline has ended. -/
def stopSenders (c : Cluster) (m : Nat) : Cluster :=
  match c.member? m with
  | none => c
  | some member =>
    match member.node.outboxes.findIdx? (·.phase ≠ .stopped) with
    | some i =>
      let outboxes := member.node.outboxes.modify i Outbox.stop
      (c.setMember m { member with stage := .stopping, node := { member.node with outboxes } }).wake
        (.sender m i)
    | none =>
      let notices := member.node.notices
      let notices := if member.abandoned then notices.close else notices
      c.setMember m { member with stage := .ended, node := { member.node with notices } }

/-- Ends a pipeline whose intake is empty: nobody comes in any more, those who still wait are
refused, and once those with a promise have come the log is closed. -/
def leave (c : Cluster) (m : Nat) : Cluster :=
  match c.member? m with
  | none => c
  | some member =>
    let node := { member.node with intake := member.node.intake.close }
    let refused := member.waiting
    if node.intake.promised > 0 then
      (c.setMember m { member with node, waiting := [] }).wakeAll refused
    else
      let node := { node with log := (node.log.close c.disk).2 }
      ((c.setMember m { member with node, waiting := [] }).wakeAll refused).stopSenders m

/-- The turn of a pipeline. -/
def pipelineTurn (c : Cluster) (m : Nat) : Cluster :=
  match c.member? m with
  | none => c
  | some member =>
    match member.stage with
    | .ended => c
    | .stopping => c.stopSenders m
    | .running => processMany m member.node.intake.queue.length c
    | .leaving => (processMany m member.node.intake.queue.length c).leave m

/-! ## The turn of a sender -/

def outbox? (c : Cluster) (m i : Nat) : Option Outbox :=
  (c.node? m).bind fun n => n.outboxes[i]?

def setOutbox (c : Cluster) (m i : Nat) (o : Outbox) : Cluster :=
  match c.node? m with
  | none => c
  | some n => c.setNode m { n with outboxes := n.outboxes.set i o }

def flight? (c : Cluster) (m i : Nat) : Option Flight :=
  c.flights.find? fun f => f.node = m && f.outbox = i

def setFlight (c : Cluster) (f : Flight) : Cluster :=
  { c with flights := f :: c.flights.filter fun g => !(g.node = f.node && g.outbox = f.outbox) }

def dropFlight (c : Cluster) (f : Flight) : Cluster :=
  { c with flights := c.flights.filter fun g => !(g.node = f.node && g.outbox = f.outbox) }

def reception (c : Cluster) (address : String) : Reception :=
  (c.receptions.get? address).getD {}

/-- Notes what a push brought. -/
def note (c : Cluster) (number : Nat) (result : PushResult) : Cluster :=
  { c with pushes := c.pushes.map fun p => if p.number = number then { p with result } else p }

/-- A push at a node, as far as its intake takes the requests. -/
def hand (c : Cluster) (f : Flight) (target : Nat) (left : List Request) (accepted : Nat) :
    FlightEnd × Cluster :=
  match handOver (.sender f.node f.outbox) target left accepted c with
  | (.all n, c) => (.ends (.ok (f.reception.told n)), c)
  | (.refused, c) => (.ends (.error .closed), c)
  | (.waits left n, c) => (.goesOn (.handing target left n), c)

/-- A push behind its delay. -/
def arrive (c : Cluster) (f : Flight) : FlightEnd × Cluster :=
  if f.reception.hangs then (.goesOn .hanging, c)
  else match f.reception.error with
    | some e => (.ends (.error e), c)
    | none =>
      match c.find? f.address with
      | none => (.ends (.error (.unreachable f.address)), c)
      | some target => c.hand f target (Node.pushed f.records) 0

/-- Lets a push in flight go on. -/
def fly (c : Cluster) (f : Flight) : FlightEnd × Cluster :=
  match f.stage with
  | .departing =>
    if f.reception.delay.nanos = 0 then c.arrive f
    else (.goesOn (.delayed (c.now + f.reception.delay.nanos)), c)
  | .delayed arrives => if arrives ≤ c.now then c.arrive f else (.goesOn f.stage, c)
  | .hanging => (.goesOn .hanging, c)
  | .handing target left accepted => c.hand f target left accepted

/-- Lets a push in flight go on, or cuts it off at its limit. -/
def flyWithin (c : Cluster) (f : Flight) : FlightEnd × Cluster :=
  match c.fly f with
  | (.goesOn stage, c) =>
    if f.limit ≤ c.now then
      match stage with
      | .handing target _ _ => (.cutOff, c.withdraw (.sender f.node f.outbox) target)
      | _ => (.cutOff, c)
    else (.goesOn stage, c)
  | ended => ended

/-- Arranges what a sender waits for when its phase has changed. -/
def arrange (c : Cluster) (m i : Nat) (before : Phase) (o : Outbox) : Cluster :=
  let me : Activity := .sender m i
  let c := c.setOutbox m i o
  match o.phase with
  | .stopped => (c.cancelAlarms me).wake (.pipeline m)
  | .calling _ => (c.cancelAlarms me).wakeFirst me
  | phase =>
    if phase = before then c
    else match o.alarm? with
      | some t => (c.cancelAlarms me).setAlarm t me
      | none => c

/-- Ends the push of a sender, which goes on with what follows. -/
def land (c : Cluster) (f : Flight) (o : Outbox) (result : Except Error Nat) : Cluster :=
  let c := (c.dropFlight f).cancelAlarms (.sender f.node f.outbox)
  c.arrange f.node f.outbox o.phase (o.answered c.now result)

/-- What follows when a push has gone on. -/
def afterFlight (c : Cluster) (f : Flight) (o : Outbox) : FlightEnd → Cluster
  | .goesOn stage =>
    let me : Activity := .sender f.node f.outbox
    let c := c.setFlight { f with stage }
    match f.stage with
    | .departing =>
      let c := match stage with
        | .delayed arrives => c.setAlarm arrives me
        | _ => c
      c.setAlarm f.limit me
    | _ => c
  | .ends (.ok n) => (c.note f.number (.told n)).land f o (.ok n)
  | .ends (.error e) => (c.note f.number (.failed e)).land f o (.error e)
  | .cutOff => c.land f o (.error .timeout)

/-- Makes the push that a sender wants to make. -/
def depart (c : Cluster) (m i : Nat) (o : Outbox) (batch : List String) : Cluster :=
  let f : Flight := {
    node := m, outbox := i, number := c.pushCount, address := o.address, records := batch
    reception := c.reception o.address
    limit := c.now + o.settings.callLimit.nanos }
  let source := ((c.member? m).map (·.name)).getD ""
  let made : PushMade := {
    number := c.pushCount, moment := c.now, source, target := o.address, records := batch }
  let c := { c with pushes := made :: c.pushes, pushCount := c.pushCount + 1 }
  let (ended, c) := c.flyWithin f
  c.afterFlight f o ended

/-- The turn of a sender. -/
def senderTurn (c : Cluster) (m i : Nat) : Cluster :=
  match c.outbox? m i with
  | none => c
  | some o =>
    match c.flight? m i with
    | some f =>
      let (ended, c) := c.flyWithin f
      c.afterFlight f o ended
    | none =>
      match o.phase with
      | .calling batch => c.depart m i o batch
      | _ => c.arrange m i o.phase (o.resume c.now)

/-! ## Taking turns -/

def turn (c : Cluster) : Activity → Cluster
  | .caller => c
  | .pipeline m => c.pipelineTurn m
  | .sender m i => c.senderTurn m i

/-- How many turns may follow each other. -/
def enough : Nat := 10000000

/-- Gives turns until all wait. -/
def settleWithin : (fuel : Nat) → Cluster → Cluster
  | 0, c => c
  | fuel + 1, c =>
    match c.ready with
    | [] => c
    | a :: rest => settleWithin fuel ({ c with ready := rest }.turn a)

def settle (c : Cluster) : Cluster := settleWithin enough c

/-- Lets all go on up to a moment; alarms of that very moment are still to ring. -/
def runTo (stop : Moment) : (fuel : Nat) → Cluster → Cluster
  | 0, c => { c with now := stop }
  | fuel + 1, c =>
    let c := c.settle
    match c.nextAlarm? with
    | some t => if t < stop then runTo stop fuel (c.ring t) else { c with now := stop }
    | none => { c with now := stop }

/-- Lets the caller wait for a moment that has not come. -/
def waitUntil (c : Cluster) (t : Moment) : Cluster := if c.now < t then runTo t enough c else c

/-- Lets some time pass. -/
def sleep (c : Cluster) (span : Span) : Cluster := runTo (c.now + span.nanos) enough c

/-- Lets all go on until the pipeline of a node has ended. -/
def runToEnd (m : Nat) : (fuel : Nat) → Cluster → Cluster
  | 0, c => c
  | fuel + 1, c =>
    let c := c.settle
    if (c.member? m).all (·.stage = .ended) then c
    else match c.nextAlarm? with
      | some t => runToEnd m fuel (c.ring t)
      | none => c

end Cluster

end Replica
