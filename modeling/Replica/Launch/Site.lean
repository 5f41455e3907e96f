/-
# A node on its own

A node and its files, as they stand between two requests: **its pipeline has taken all that was
in the intake**, so that no request has to wait for a place.  Requests come over HTTP, and its
outboxes are tended from outside, by whoever makes their calls.
-/

import Replica.Http.Answer

namespace Replica.Launch

/-- A node and its files. -/
structure Site where
  node : Node
  disk : Disk

namespace Site

/-- Opens a node in its directory. -/
def openIn (s : Settings) (d : Disk) : Except Failure Site × Disk :=
  let (node, disk) := Node.openIn s d
  (node.map fun node => ⟨node, disk⟩, disk)

/-- Puts requests into the pipeline, which takes them. -/
def take (s : Site) (rs : List Request) : Site :=
  let (node, disk) := s.node.processAll s.disk rs
  { node, disk }

/-- Lets the pipeline take what a node has put into its intake. -/
def settle (s : Site) (node : Node) : Site :=
  let (node, disk) := node.drain s.disk
  { node, disk }

/-- Saves the snapshot. -/
def save (s : Site) : Except Failure Unit × Disk :=
  let (result, disk) := s.node.save s.disk
  (result.mapError .disk, disk)

/-! ## Serving -/

/-- What the node replies to what is asked of it when the clock reads `millis`. -/
def reply (s : Site) (millis : Int64) : Http.Ask → Http.Reply × Site
  | .tell question => (Http.questionReply s.node question, s)
  | .push records =>
    let requests := Node.pushed records
    (Http.pushReply (.ok requests.length), s.take requests)
  | .set key value =>
    let (version, node) := s.node.set millis key value
    (Http.versionReply version, s.settle node)
  | .delete key =>
    let (version, node) := s.node.delete millis key
    (Http.versionReply version, s.settle node)

/-- Serves a request. -/
def serve (s : Site) (millis : Int64) (r : Http.Request) : Http.Reply × Site :=
  match r.ask true with
  | .error status => (.bare status, s)
  | .ok ask =>
    let (answer, s) := s.reply millis ask
    (answer.forMethod r.method, s)

/-! ## Outboxes -/

/-- Changes an outbox. -/
def withOutbox (s : Site) (i : Nat) (f : Outbox → Outbox) : Site :=
  { s with node := { s.node with outboxes := s.node.outboxes.modify i f } }

/-- Lets an outbox go on. -/
def resume (s : Site) (i : Nat) (now : Moment) : Site := s.withOutbox i (·.resume now)

/-- Tells an outbox what came of its call. -/
def answered (s : Site) (i : Nat) (now : Moment) (result : Except Error Nat) : Site :=
  s.withOutbox i (·.answered now result)

/-- Tells all outboxes to stop. -/
def stopSending (s : Site) : Site :=
  { s with node := { s.node with outboxes := s.node.outboxes.map Outbox.stop } }

/-! ## The log -/

/-- What stands in the log, which is emptied: what has been stored elsewhere need not be
kept. -/
def takeLog (s : Site) : Bytes × Site :=
  let path := s.node.log.path
  ((s.disk.read path).toOption.getD [], { s with disk := s.disk.put path (.file []) })

end Site

end Replica.Launch
