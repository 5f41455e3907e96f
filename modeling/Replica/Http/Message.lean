/-
# Requests and replies

What a client asks over HTTP and what it is told.  A reply with an error holds the words of
the error, or nothing if the request did not get as far as a node.
-/

import Replica.Error

namespace Replica.Http

structure Request where
  method : String := "GET"
  /-- The path, with the query if there is one. -/
  target : String
  contentType : Option String := none
  body : Bytes := []

structure Reply where
  status : Nat
  contentType : Option String := none
  /-- The version of the item that is told. -/
  version : Option Version := none
  body : Bytes := []

namespace Reply

/-- A reply without content. -/
def bare (status : Nat) : Reply := { status }

def json (body : Bytes) : Reply :=
  { status := 200, contentType := some "application/json", body }

/-- A text. -/
def plain (body : String) : Reply :=
  { status := 200, contentType := some "text/plain; charset=utf-8", body := Text.utf8 body }

/-- An item. -/
def bytes (body : Bytes) (version : Version) : Reply :=
  { status := 200, contentType := some "application/octet-stream", version := some version, body }

/-- An error in its own words. -/
def error (e : Error) : Reply := { status := e.status, body := Text.utf8 e.message }

/-- The reply without its body. -/
def withoutBody (r : Reply) : Reply := { r with body := [] }

end Reply

end Replica.Http
