/-
# A node

One replica: what its keys hold, who watches them, the intake in front of its pipeline, its
log, and an outbox for each peer.  The pipeline takes one request after another: **it applies
the request, tells those who watch, writes the log, and offers what a client asked for to
every peer.**  A log that fails and an outbox that refuses stop nothing.
-/

import Replica.Intake
import Replica.Log
import Replica.Notices
import Replica.Outbox
import Replica.Snapshot

namespace Replica

/-- Why something could not be done with a node. -/
inductive Failure where
  | refused (error : Error)
  | disk (fault : DiskFault)
  /-- A snapshot that does not read. -/
  | snapshot (fault : Json.Fault)
  /-- None of so many peers gave a snapshot that reads. -/
  | noUsablePeer (peers : Nat)
  /-- An address to serve at that does not read. -/
  | address
deriving DecidableEq, Repr

/-- The words for a failure. -/
def Failure.message : Failure → String
  | .refused error => error.message
  | .disk fault => fault.message
  | .snapshot _ => "snapshot does not read"
  | .noUsablePeer n =>
    "Failed to pull a snapshot from any of " ++ Text.Decimal.ofNat n ++ " peers"
  | .address => "invalid socket address syntax"

structure Node where
  settings : Settings
  ticker : Ticker
  store : Store
  notices : Notices
  intake : Intake
  log : Log
  outboxes : List Outbox

/-- What a node tells of itself. -/
structure NodeStatus where
  id : UInt32
  keyCount : Nat
  peers : List String

namespace Node

/-! ## Opening -/

/-- The store that the snapshot of a node holds; without one it is empty. -/
def restore (d : Disk) (s : Settings) : Except Failure Store :=
  let path := Path.ofText s.snapshotPath
  match d.get? path with
  | none => .ok .empty
  | some _ =>
    match d.read path with
    | .error f => .error (.disk f)
    | .ok b => (Store.ofSnapshot b).mapError .snapshot

/-- A node in its directory, which is made if it is missing. -/
def openIn (s : Settings) (d : Disk) : Except Failure Node × Disk :=
  match Ticker.ofNode? s.node with
  | none => (.error (.refused (.settings (.nodeOutOfRange s.node.toNat))), d)
  | some ticker =>
    match d.makeDirs (Path.ofText s.directory) with
    | .error f => (.error (.disk f), d)
    | .ok d =>
      match restore d s with
      | .error f => (.error f, d)
      | .ok store =>
        match Log.openAt d (Path.ofText s.logPath) with
        | (.error f, d) => (.error (.disk f), d)
        | (.ok log, d) =>
          (.ok {
            settings := s, ticker, store, log
            notices := {}
            intake := { capacity := s.intakeCapacity }
            outboxes := s.peers.map fun address => Outbox.new address s.sender }, d)

/-! ## Asking for writes -/

/-- The next version at a reading of the clock. -/
def nextVersion (n : Node) (millis : Int64) : Version × Node :=
  let (v, ticker) := n.ticker.next millis
  (v, { n with ticker })

/-- Puts a request into the intake without waiting. -/
def submit (n : Node) (r : Request) : Except Error Node :=
  (n.intake.submit r).map fun intake => { n with intake }

/-- Stamps a request of a client and submits it.  A legal key uses up a version, whatever
becomes of the request. -/
def stamp (n : Node) (millis : Int64) (key : String) (request : Version → Request) :
    Except Error Version × Node :=
  match checkKey key with
  | .error fault => (.error (.malformed (.key fault)), n)
  | .ok () =>
    let (v, n) := n.nextVersion millis
    match n.submit (request v) with
    | .ok n => (.ok v, n)
    | .error e => (.error e, n)

/-- Asks for a key to hold a value; the answer is the version that the write will carry. -/
def set (n : Node) (millis : Int64) (key : String) (value : Bytes) :
    Except Error Version × Node :=
  n.stamp millis key fun v => .set v .client key value

/-- Asks for a key to hold nothing. -/
def delete (n : Node) (millis : Int64) (key : String) : Except Error Version × Node :=
  n.stamp millis key fun v => .delete v .client key

/-- The requests that a peer's records carry; records that carry none are passed over. -/
def pushed (records : List String) : List Request :=
  records.filterMap fun s => (Request.ofRecord s).toOption.map Request.toPeer

/-- The requests that put the items of a peer's snapshot into the pipeline. -/
def pulled (s : Store) : List Request :=
  s.items.entries.map fun (key, item) => .set item.version .peer key item.value

/-! ## The pipeline -/

/-- Offers a request to every peer if a client asked for it. -/
def offer (n : Node) (r : Request) : Node :=
  match r.origin with
  | .client => { n with outboxes := n.outboxes.map fun o => o.offerAny r.toPeer.record }
  | .peer => n

/-- Processes one request. -/
def process (n : Node) (d : Disk) (r : Request) : Node × Disk :=
  let (change, store) := n.store.apply r
  let d := ((n.log.append d r).toOption).getD d
  ({ n with store, notices := n.notices.tellAny change }.offer r, d)

/-- Processes requests in order. -/
def processAll (n : Node) (d : Disk) (rs : List Request) : Node × Disk :=
  rs.foldl (fun (n, d) r => n.process d r) (n, d)

theorem processAll_append (n : Node) (d : Disk) (rs ss : List Request) :
    n.processAll d (rs ++ ss) =
      (n.processAll d rs).1.processAll (n.processAll d rs).2 ss := by
  simp [processAll, List.foldl_append]

/-- Processes the next request of the intake, if there is one. -/
def advance? (n : Node) (d : Disk) : Option (Node × Disk) :=
  n.intake.next?.map fun (r, intake) => { n with intake }.process d r

/-- Processes all that is in the intake. -/
def drain (n : Node) (d : Disk) : Node × Disk :=
  { n with intake := { n.intake with queue := [] } }.processAll d n.intake.queue

/-! ## Snapshots -/

/-- How the snapshot is saved: written beside the old one, made sure of, and only then given
its name. -/
def saveSteps (n : Node) : List Disk.Step :=
  let target := Path.ofText n.settings.snapshotPath
  let draft := Path.ofText n.settings.draftPath
  [.makeDirs target.parent, .openNew draft, .append draft n.store.snapshot, .sync draft,
    .rename draft target]

/-- Saves the snapshot. -/
def save (n : Node) (d : Disk) : Except DiskFault Unit × Disk := d.run n.saveSteps

/-! ## Asking -/

def get? (n : Node) (key : String) : Option Item := n.store.get? key

def keys (n : Node) (pattern : String) : Except Error (List String) := n.store.keys pattern

def status (n : Node) : NodeStatus := ⟨n.settings.node, n.store.size, n.settings.peers⟩

end Node

end Replica
