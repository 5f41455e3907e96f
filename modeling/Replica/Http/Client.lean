/-
# Calling peers over HTTP

What a node asks of a peer at an address, and what it makes of the response.  Everything short
of a response below 400 leaves the peer unreachable; a response that does not read is
malformed.  An address without a scheme is one of plain HTTP, and nothing else can be called.
-/

import Replica.Http.Route
import Replica.Http.Url
import Replica.Json.Writer

namespace Replica.Http

/-- What is asked of a peer. -/
inductive PeerCall where
  | push (records : List String)
  | pull
  | keys (pattern : String)
deriving DecidableEq, Repr

/-- What a peer answers. -/
inductive PeerAnswer where
  | accepted (count : Nat)
  | snapshot (bytes : Bytes)
  | keys (keys : List String)
deriving DecidableEq, Repr

/-- A request as it is sent. -/
structure Sent where
  method : String
  url : Url
  contentType : Option String
  body : Bytes

namespace PeerAnswer

/-- How many records were taken, if that is what was answered. -/
def accepted? : PeerAnswer → Option Nat
  | .accepted count => some count
  | _ => none

end PeerAnswer

/-- What comes back. -/
inductive Response where
  /-- A status and a body. -/
  | full (status : Nat) (body : Bytes)
  /-- The connection ended without a response. -/
  | dropped

namespace PeerCall

def pathName : PeerCall → String
  | .push _ => "push"
  | .pull => "pull"
  | .keys _ => "keys"

/-- The text of the address that is called. -/
def addressText (call : PeerCall) (address : String) : String :=
  let cs := (address.toList.reverse.dropWhile (· = '/')).reverse
  let schemed := "http://".toList.isPrefixOf cs || "https://".toList.isPrefixOf cs
  (if schemed then "" else "http://") ++ String.ofList cs ++ "/" ++ call.pathName

/-- The address that is called, if it can be. -/
def url? (call : PeerCall) (address : String) : Option Url :=
  match Url.ofText? (call.addressText address) with
  | none => none
  | some u =>
    if u.secure then none
    else match call with
      | .keys pattern => some (u.withField "pattern" pattern)
      | _ => some u

/-- The request that is sent, if the address can be called. -/
def request? (call : PeerCall) (address : String) : Option Sent :=
  (call.url? address).map fun url => match call with
    | .push records =>
      { method := "POST", url, contentType := some "application/json"
        body := Text.utf8 (String.ofList
          (Json.objectChars [("records", Json.stringsChars records)])) }
    | _ => { method := "GET", url, contentType := none, body := [] }

/-- Whether a response of a status has no body, whatever follows. -/
def isBodiless (status : Nat) : Bool := status < 200 || status = 204 || status = 304

/-- What the body of a response says. -/
def read (call : PeerCall) (body : Bytes) : Except Json.Fault PeerAnswer :=
  match call with
  | .push _ => (Json.readWhole (readOnly "accepted" Json.readNat) body).map .accepted
  | .pull => .ok (.snapshot body)
  | .keys _ =>
    (Json.readWhole (readOnly "keys" (Json.readList Json.readString)) body).map .keys

/-- What a response comes to. -/
def result (call : PeerCall) (address : String) : Response → Except Error PeerAnswer
  | .dropped => .error (.unreachable address)
  | .full status body =>
    if 400 ≤ status ∧ status < 600 then .error (.unreachable address)
    else match call.read (if isBodiless status then [] else body) with
      | .ok a => .ok a
      | .error _ => .error (.malformed (.answer address))

/-- The request that is sent, and what a response to it comes to.  What cannot be sent leaves
the peer unreachable. -/
def perform (call : PeerCall) (address : String) (response : Response) :
    Option Sent × Except Error PeerAnswer :=
  match call.request? address with
  | none => (none, .error (.unreachable address))
  | some sent => (some sent, call.result address response)

end PeerCall

end Replica.Http
