/-
# Driving a cluster from outside

What the caller does with the nodes of a cluster.  Most of it takes no time and lets nothing
else go on; the caller waits only for time to pass, for a place in a full intake, for a call to
a peer, and for a node to shut down.
-/

import Replica.Cluster

namespace Replica.Cluster

/-! ## Opening and closing -/

/-- Lets a node go without shutting it down: its pipeline takes what is in the intake. -/
def abandon (c : Cluster) (m : Nat) : Cluster :=
  match c.member? m with
  | none => c
  | some member =>
    let notices := member.node.notices
    let notices := if member.stage = .ended then notices.close else notices
    let stage := if member.stage = .running then .leaving else member.stage
    (c.setMember m { member with
      abandoned := true, stage, node := { member.node with notices } }).wake (.pipeline m)

/-- Lets go of the node that is open under a name, and whether there was one. -/
def drop (c : Cluster) (name : String) : Bool × Cluster :=
  match c.find? name with
  | none => (false, c)
  | some m => (true, abandon { c with names := c.names.erase name } m)

/-- Opens a node under a name, in place of the one that had the name. -/
def openNode (c : Cluster) (name : String) (settings : Settings) :
    Except Failure Node × Cluster :=
  match Node.openIn settings c.disk with
  | (.error f, disk) => (.error f, { c with disk })
  | (.ok node, disk) =>
    let m := c.members.length
    let senders := (List.range node.outboxes.length).map fun i => Activity.sender m i
    let member : Member := { name, node }
    let c := { c with disk, members := c.members ++ [member] }
    let c := (c.wakeAll senders).wake (.pipeline m)
    let (_, c) := c.drop name
    (.ok node, { c with names := c.names.insert name m })

/-- Saves the snapshot of a node. -/
def persist (c : Cluster) (m : Nat) : Except DiskFault Unit × Cluster :=
  match c.node? m with
  | none => (.ok (), c)
  | some n =>
    let (result, disk) := n.save c.disk
    (result, { c with disk })

/-- Shuts a node down: its pipeline takes what is in the intake, its senders stop, and its
snapshot is saved. -/
def shutdown (c : Cluster) (m : Nat) : Except DiskFault Unit × Cluster :=
  match c.member? m with
  | none => (.ok (), c)
  | some member =>
    if member.stage = .ended then c.persist m
    else
      let c := (c.setMember m { member with stage := .leaving }).wake (.pipeline m)
      (runToEnd m enough c).persist m

/-! ## Writing -/

/-- Submits a request to a node. -/
def submit (c : Cluster) (m : Nat) (r : Request) : Except Error Unit × Cluster :=
  match c.node? m with
  | none => (.error .closed, c)
  | some n =>
    match n.submit r with
    | .error e => (.error e, c)
    | .ok n => (.ok (), (c.setNode m n).wake (.pipeline m))

/-- Takes a version from a node. -/
def nextVersion (c : Cluster) (m : Nat) : Version × Cluster :=
  match c.node? m with
  | none => (0, c)
  | some n =>
    let (v, n) := n.nextVersion c.millis
    (v, c.setNode m n)

/-- Lets a node stamp and submit a write. -/
def write (c : Cluster) (m : Nat)
    (act : Node → Int64 → Except Error Version × Node) : Except Error Version × Cluster :=
  match c.node? m with
  | none => (.error .closed, c)
  | some n =>
    let (result, n) := act n c.millis
    (result, (c.setNode m n).wake (.pipeline m))

def set (c : Cluster) (m : Nat) (key : String) (value : Bytes) :
    Except Error Version × Cluster :=
  c.write m fun n millis => n.set millis key value

def delete (c : Cluster) (m : Nat) (key : String) : Except Error Version × Cluster :=
  c.write m fun n millis => n.delete millis key

/-- Hands requests over to a node, waiting as often as its intake is full. -/
def handOverAll (m : Nat) : (fuel : Nat) → List Request → (accepted : Nat) → Cluster →
    Except Error Nat × Cluster
  | 0, _, _, c => (.error .closed, c)
  | fuel + 1, requests, accepted, c =>
    match handOver .caller m requests accepted c with
    | (.all n, c) => (.ok n, c)
    | (.refused, c) => (.error .closed, c)
    | (.waits left n, c) => handOverAll m fuel left n c.settle

/-- Hands requests over to a node; each round takes one or more. -/
def deliver (c : Cluster) (m : Nat) (requests : List Request) : Except Error Nat × Cluster :=
  handOverAll m (requests.length + 1) requests 0 c

/-- Pushes records to a node: the answer is how many requests they carried. -/
def push (c : Cluster) (m : Nat) (records : List String) : Except Error Nat × Cluster :=
  c.deliver m (Node.pushed records)

/-! ## Calling peers -/

/-- Asks the node at an address, within a limit. -/
def ask {α : Type} (c : Cluster) (address : String) (limit : Span)
    (reply : Reception → Node → Except Error α) : Except Error α × Cluster :=
  let r := c.reception address
  match endOfCall c.now limit (r.arrival c.now) (.ok ()) with
  | (t, .error e) => (.error e, c.waitUntil t)
  | (t, .ok ()) =>
    let c := c.waitUntil t
    match r.error with
    | some e => (.error e, c)
    | none =>
      match (c.find? address).bind c.node? with
      | none => (.error (.unreachable address), c)
      | some n => (reply r n, c)

/-- The keys in which a pattern is found, at the peer of a node. -/
def remoteKeys (c : Cluster) (m : Nat) (address pattern : String) :
    Except Error (List String) × Cluster :=
  match c.node? m with
  | none => (.error .closed, c)
  | some n => c.ask address n.settings.sender.callLimit fun _ peer => peer.keys pattern

/-- Pulls the snapshot of the node at an address, within a limit. -/
def pull (c : Cluster) (limit : Span) (address : String) : Except Error Bytes × Cluster :=
  c.ask address limit fun r peer => .ok (r.snapshot.getD peer.store.snapshot)

/-- The snapshot of the first peer in order that gives one that reads. -/
def pullFirst (limit : Span) : List String → Cluster → Option Store × Cluster
  | [], c => (none, c)
  | address :: rest, c =>
    match c.pull limit address with
    | (.error _, c) => pullFirst limit rest c
    | (.ok bytes, c) =>
      match Store.ofSnapshot bytes with
      | .error _ => pullFirst limit rest c
      | .ok s => (some s, c)

/-- Lets a node catch up from the first peer that gives a snapshot: all of its items go through
the pipeline.  The answer is how many there were. -/
def catchUp (c : Cluster) (m : Nat) : Except Failure Nat × Cluster :=
  match c.node? m with
  | none => (.error (.refused .closed), c)
  | some n =>
    let peers := n.settings.peers
    if peers.isEmpty then (.ok 0, c)
    else match pullFirst n.settings.sender.callLimit peers c with
      | (none, c) => (.error (.noUsablePeer peers.length), c)
      | (some s, c) =>
        let (result, c) := c.deliver m (Node.pulled s)
        (result.mapError .refused, c)

/-! ## Watching -/

/-- Watches a key of a node. -/
def watch (c : Cluster) (m : Nat) (key : String) : Nat × Cluster :=
  match c.node? m with
  | none => (0, c)
  | some n =>
    let (ticket, notices) := n.notices.draw key
    (ticket, c.setNode m { n with notices })

/-- What a ticket of a node has been told. -/
def poll (c : Cluster) (m ticket : Nat) : Slip × Cluster :=
  match c.node? m with
  | none => (.closed, c)
  | some n =>
    let (slip, notices) := n.notices.take ticket
    (slip, c.setNode m { n with notices })

/-- Gives a ticket of a node up. -/
def giveUp (c : Cluster) (m ticket : Nat) : Cluster :=
  match c.node? m with
  | none => c
  | some n => c.setNode m { n with notices := n.notices.giveUp ticket }

/-! ## What calls meet, and what was called -/

/-- Lays down what calls to an address meet from now on. -/
def setReception (c : Cluster) (address : String) (r : Option Reception) : Cluster :=
  { c with receptions := match r with
      | some r => c.receptions.insert address r
      | none => c.receptions.erase address }

/-- The pushes made since the last time, in the order they were made, and a clean list. -/
def takePushes (c : Cluster) : List PushMade × Cluster :=
  (c.pushes.reverse, { c with pushes := [] })

end Replica.Cluster
