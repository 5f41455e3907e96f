/-
# Serving requests

A request over HTTP to a node of a cluster.
-/

import Replica.Cluster.Caller
import Replica.Http.Answer

namespace Replica.Cluster

open Http

/-- What a node replies to what is asked of it. -/
def reply (c : Cluster) (m : Nat) (n : Node) : Ask → Reply × Cluster
  | .tell question => (questionReply n question, c)
  | .push records =>
    let (result, c) := c.push m records
    (pushReply result, c)
  | .set key value =>
    let (result, c) := c.set m key value
    (versionReply result, c)
  | .delete key =>
    let (result, c) := c.delete m key
    (versionReply result, c)

/-- Serves a request; `forClients` opens the routes that are not for peers alone. -/
def serve (c : Cluster) (m : Nat) (forClients : Bool) (r : Http.Request) : Reply × Cluster :=
  match c.node? m with
  | none => (.bare 404, c)
  | some n =>
    match r.ask forClients with
    | .error status => (.bare status, c)
    | .ok ask =>
      let (answer, c) := c.reply m n ask
      (answer.forMethod r.method, c)

end Replica.Cluster
