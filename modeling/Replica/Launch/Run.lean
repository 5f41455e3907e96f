/-
# A run of a node

What a node does from its command line to its end: it opens its directory, asks its peers for
a snapshot, serves at its address until it is told to stop, and saves what it holds.  **A run
that does not get to serving saves nothing**; one whose peers do not help starts from what the
directory holds.
-/

import Replica.Http.Client
import Replica.Launch.CommandLine
import Replica.Launch.Site

namespace Replica.Launch

/-! ## Catching up -/

/-- What trying to reach a peer comes to. -/
inductive Connection where
  | refused
  | made (response : Http.Response)

/-- The items in a peer's response to a pull, if it reads. -/
def pulledStore? (address : String) (response : Http.Response) : Option Store :=
  match Http.PeerCall.pull.result address response with
  | .ok (.snapshot b) => (Store.ofSnapshot b).toOption
  | _ => none

/-- Asks peers in turn until a response reads: what was sent, and the items.  A peer that cannot
be called makes no connection; when connections have run out all others are refused. -/
def askPeers : (peers : List String) → List Connection → List Http.Sent × Option Store
  | [], _ => ([], none)
  | address :: peers, connections =>
    match Http.PeerCall.pull.request? address with
    | none => askPeers peers connections
    | some sent =>
      match connections.headD .refused with
      | .refused => askPeers peers connections.tail
      | .made response =>
        match pulledStore? address response with
        | some store => ([sent], some store)
        | none =>
          let (more, found) := askPeers peers connections.tail
          (sent :: more, found)

/-- Puts the items of a peer into the pipeline. -/
def Site.catchUp (s : Site) : Option Store → Site
  | some store => s.take (Node.pulled store)
  | none => s

/-! ## From the command line to the end -/

/-- The address at which a node serves. -/
def servingAddress (o : Options) : Except Failure Net.SocketAddress :=
  match Net.SocketAddress.ofText? o.address with
  | some address => .ok address
  | none => .error .address

/-- How a run ended. -/
structure Outcome where
  /-- The status of the program. -/
  code : Nat
  failure : Option Failure := none
  /-- The requests that peers have seen; none if the command line was not taken. -/
  requests : Option (List Http.Sent)
  disk : Disk

/-- The end of a run that took its command line. -/
def Outcome.ofResult (requests : List Http.Sent) : Except Failure Unit × Disk → Outcome
  | (.ok (), disk) => { code := 0, requests := some requests, disk }
  | (.error failure, disk) =>
    { code := 1, failure := some failure, requests := some requests, disk }

/-- A run in which no client connects. -/
def run (line : List String) (env : Environment) (disk : Disk) (connections : List Connection) :
    Outcome :=
  match Options.read line env with
  | .error refusal => { code := refusal.exitCode, requests := none, disk }
  | .ok options =>
    match Site.openIn options.settings disk with
    | (.error failure, disk) => .ofResult [] (.error failure, disk)
    | (.ok site, _) =>
      let (sent, found) := askPeers options.peers connections
      let site := site.catchUp found
      .ofResult sent (match servingAddress options with
        | .ok _ => site.save
        | .error failure => (.error failure, site.disk))

end Replica.Launch
