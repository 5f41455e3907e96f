/-
# Answering a request

What a node replies to a question, and how the outcome of what changes it is worded.
-/

import Replica.Http.Route
import Replica.Json.Writer
import Replica.Node

namespace Replica.Http

/-- The bytes of written JSON. -/
def jsonBytes (chars : List Char) : Bytes := Text.utf8 (String.ofList chars)

/-- A list of keys as a reply. -/
def keysReply : Except Error (List String) → Reply
  | .ok keys => .json (jsonBytes (Json.objectChars [("keys", Json.stringsChars keys)]))
  | .error e => .error e

/-- The outcome of a push as a reply. -/
def pushReply : Except Error Nat → Reply
  | .ok accepted =>
    .json (jsonBytes (Json.objectChars [("accepted", Text.Decimal.natChars accepted)]))
  | .error e => .error e

/-- A version as a reply. -/
def versionReply : Except Error Version → Reply
  | .ok v => .plain (Text.Decimal.ofInt v.toInt)
  | .error e => .error e

/-- The status of a node as a reply. -/
def statusReply (s : NodeStatus) : Reply :=
  .json (jsonBytes (Json.objectChars [("id", Text.Decimal.natChars s.id.toNat),
    ("n_keys", Text.Decimal.natChars s.keyCount), ("peers", Json.stringsChars s.peers)]))

/-- An item as a reply. -/
def itemReply (key : String) : Option Item → Reply
  | some i => .bytes i.value i.version
  | none => .error (.notFound key)

/-- What a node replies to a question. -/
def questionReply (n : Node) : Question → Reply
  | .pull => .json n.store.snapshot
  | .keys pattern => keysReply (n.keys pattern)
  | .get key => itemReply key (n.get? key)
  | .status => statusReply n.status

/-- A reply as a method gets it. -/
def Reply.forMethod (method : String) (r : Reply) : Reply :=
  if method = "HEAD" then r.withoutBody else r

end Replica.Http
