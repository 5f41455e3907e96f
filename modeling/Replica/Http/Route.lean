/-
# Routes

Where the paths lead.  Peers push records, pull the snapshot and list keys; clients besides
list keys, read, write and delete single items, and ask for the status.
-/

import Replica.Http.Message
import Replica.Json.Reader
import Replica.Http.ContentType
import Replica.Text.Percent

namespace Replica.Http

/-- Where a path leads. -/
inductive Route where
  | push
  | pull
  | keys
  /-- The keys, for clients. -/
  | list
  /-- One item, by its key as it stands in the path. -/
  | item (key : Bytes)
  | status
deriving DecidableEq, Repr

/-- What a node can be asked that changes nothing. -/
inductive Question where
  | pull
  | keys (pattern : String)
  | get (key : String)
  | status
deriving DecidableEq, Repr

/-- What a request asks of a node. -/
inductive Ask where
  | tell (question : Question)
  | push (records : List String)
  | set (key : String) (value : Bytes)
  | delete (key : String)
deriving DecidableEq, Repr

/-- Where a path leads; `forClients` opens the routes that are not for peers alone. -/
def Route.ofPath? (forClients : Bool) (path : Bytes) : Option Route :=
  match Text.pieces (· = 0x2F) path with
  | [[], name] =>
    if name = Text.utf8 "push" then some .push
    else if name = Text.utf8 "pull" then some .pull
    else if name = Text.utf8 "keys" then some .keys
    else if forClients && name = Text.utf8 "kv" then some .list
    else none
  | [[], first, second] =>
    if !forClients || second.isEmpty then none
    else if first = Text.utf8 "kv" then some (.item second)
    else if first = Text.utf8 "debug" && second = Text.utf8 "status" then some .status
    else none
  | _ => none

/-- Whether a route takes a method; whatever is read can also be asked for without its
body. -/
def Route.takes (method : String) : Route → Bool
  | .push => method = "POST"
  | .item _ => method = "GET" || method = "HEAD" || method = "PUT" || method = "DELETE"
  | _ => method = "GET" || method = "HEAD"

/-- The path and the query of a target; a fragment is left out. -/
def splitTarget (target : String) : Bytes × Bytes :=
  let s := (Text.utf8 target).takeWhile (· ≠ 0x23)
  let path := s.takeWhile (· ≠ 0x3F)
  (path, s.drop (path.length + 1))

/-- The pattern of a query; it may stand there once. -/
def patternOf? (query : Bytes) : Option String :=
  match (Text.formFields query).filter (·.1 = "pattern") with
  | [] => some ""
  | [(_, pattern)] => some pattern
  | _ => none

/-! ## Bodies of one field -/

/-- The one field that counts, which may not come twice. -/
def readOnlyField {α : Type} (name : String) (value : Json.Reader α) (field : String)
    (met : Option α) : Json.Reader (Option α) := fun s => do
  if field = name then
    if met.isSome then throw .misshapen
    let (a, rest) ← value (← Json.readColon s)
    return (some a, rest)
  else
    return (met, ← Json.skipValue (← Json.readColon s))

/-- An object of one field, or a list of its value alone. -/
def readOnly {α : Type} (name : String) (value : Json.Reader α) : Json.Reader α := fun s =>
  match Json.skipSpace s with
  | [] => .error .ended
  | b :: rest =>
    if b = Json.openBrace then do
      let (met, rest) ← Json.readFields (readOnlyField name value) (rest.length + 1) true none rest
      match met with
      | some a => return (a, ← Json.endObject rest)
      | none => throw .misshapen
    else if b = Json.openBracket then do
      match ← Json.nextItem true rest with
      | (false, _) => throw .misshapen
      | (true, rest) =>
        let (a, rest) ← value rest
        return (a, ← Json.endList rest)
    else .error (Json.wrongShape (b :: rest))

/-- The records of a push. -/
def readRecords (body : Bytes) : Except Json.Fault (List String) :=
  Json.readWhole (readOnly "records" (Json.readList Json.readString)) body

/-! ## From a request to what it asks -/

/-- The bytes that a body may have. -/
def bodyLimit : Nat := 2097152

def Request.isTooLarge (r : Request) : Bool := bodyLimit < r.body.length

/-- What a request asks behind a route that takes its method, or the status that refuses it. -/
def Route.ask (r : Request) (query : Bytes) : Route → Except Nat Ask
  | .push =>
    if !(r.contentType.any isJsonType) then .error 415
    else if r.isTooLarge then .error 413
    else match readRecords r.body with
      | .ok records => .ok (.push records)
      | .error .misshapen => .error 422
      | .error _ => .error 400
  | .pull => .ok (.tell .pull)
  | .status => .ok (.tell .status)
  | .keys | .list =>
    match patternOf? query with
    | some pattern => .ok (.tell (.keys pattern))
    | none => .error 400
  | .item raw =>
    match Text.ofUtf8? (Text.percentDecode raw) with
    | none => .error 400
    | some key =>
      if r.method = "PUT" then if r.isTooLarge then .error 413 else .ok (.set key r.body)
      else if r.method = "DELETE" then .ok (.delete key)
      else .ok (.tell (.get key))

/-- What a request asks of a node, or the status that refuses it. -/
def Request.ask (forClients : Bool) (r : Request) : Except Nat Ask :=
  let (path, query) := splitTarget r.target
  match Route.ofPath? forClients path with
  | none => .error 404
  | some route => if route.takes r.method then route.ask r query else .error 405

end Replica.Http
