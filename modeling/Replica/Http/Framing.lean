/-
# Messages on a connection

How requests and responses stand in a stream of bytes: a first line, a field on each line that
follows, an empty line, and a body whose end the fields tell: by a length, by chunks, or, of a
response, by the end of the connection.  Reading looks at what has come in so far: **a message
is there as a whole, or it is not taken yet**.
-/

import Replica.Http.Client

namespace Replica.Http

/-- What has come in of something. -/
inductive Arrival (α : Type) where
  /-- More has to come. -/
  | partly
  /-- All of it, and what stands behind. -/
  | whole (value : α) (rest : Bytes)
  /-- It does not read, whatever comes. -/
  | broken

namespace Arrival

def map {α β : Type} (f : α → β) : Arrival α → Arrival β
  | .partly => .partly
  | .whole a rest => .whole (f a) rest
  | .broken => .broken

def bind {α β : Type} (f : α → Bytes → Arrival β) : Arrival α → Arrival β
  | .partly => .partly
  | .whole a rest => f a rest
  | .broken => .broken

end Arrival

/-! ## Lines -/

/-- A line without its end, if the end has come. -/
def readLine (b : Bytes) : Arrival String :=
  let line := b.takeWhile (· ≠ Text.lineFeed)
  match b.drop line.length with
  | [] => .partly
  | _ :: rest =>
    let line := if line.getLast? = some 0x0D then line.dropLast else line
    .whole (Text.ofUtf8Lossy line) rest

/-- The lines in front of an empty one.  There are fewer lines than bytes. -/
def readLines : (fuel : Nat) → Bytes → Arrival (List String)
  | 0, _ => .partly
  | fuel + 1, b => (readLine b).bind fun line rest =>
    if line.isEmpty then .whole [] rest else (readLines fuel rest).map (line :: ·)

/-! ## Heads -/

/-- What stands in front of a body. -/
structure Head where
  /-- The words of the first line. -/
  words : List String
  /-- The other lines, names in lower case. -/
  fields : List (String × String)

/-- The name and the value of a line. -/
def fieldOf (line : String) : String × String :=
  let name := line.toList.takeWhile (· ≠ ':')
  (String.ofList (name.map Char.toLower),
    String.ofList (Text.trim (line.toList.drop (name.length + 1))))

def readHead (b : Bytes) : Arrival Head :=
  (readLines b.length b).bind fun lines rest => match lines with
    | [] => .broken
    | first :: lines =>
      .whole ⟨(Text.fields first.toList).map String.ofList, lines.map fieldOf⟩ rest

/-! ## Bodies -/

/-- What tells the end of a body. -/
inductive BodyEnd where
  | length (count : Nat)
  | chunks
  | connection

/-- What the fields tell of the end of the body, or `silent` if they do not. -/
def Head.bodyEnd? (h : Head) (silent : BodyEnd) : Option BodyEnd :=
  match h.fields.lookup "transfer-encoding", h.fields.lookup "content-length" with
  | some coding, _ => if coding = "chunked" then some .chunks else none
  | none, some count =>
    (Text.Decimal.readNat Text.Decimal.greatestWord64 count.toList).toOption.map .length
  | none, none => some silent

/-- So many bytes. -/
def readBytes (count : Nat) (b : Bytes) : Arrival Bytes :=
  let taken := b.take count
  if taken.length = count then .whole taken (b.drop count) else .partly

/-- **What is there as a whole is taken, and what stands behind it is left.** -/
theorem readBytes_append (b rest : Bytes) : readBytes b.length (b ++ rest) = .whole b rest := by
  simp [readBytes]

/-- The length in front of a chunk; what stands behind a semicolon does not count. -/
def chunkLength? (line : String) : Option Nat :=
  match Text.trim (line.toList.takeWhile (· ≠ ';')) with
  | [] => none
  | digits => digits.foldlM (fun n c => (Text.hexValue? c).map (n * 16 + ·)) 0

/-- Chunks up to one of no length, and the fields behind it.  Each takes a byte or more. -/
def readChunks : (fuel : Nat) → Bytes → Arrival Bytes
  | 0, _ => .partly
  | fuel + 1, b => (readLine b).bind fun line rest =>
    match chunkLength? line with
    | none => .broken
    | some 0 => (readLines (rest.length + 1) rest).map fun _ => []
    | some count => (readBytes count rest).bind fun chunk rest =>
      (readLine rest).bind fun _ rest => (readChunks fuel rest).map (chunk ++ ·)

/-- A body; `ended` tells that nothing more comes. -/
def readBody (ended : Bool) (b : Bytes) : BodyEnd → Arrival Bytes
  | .length count => readBytes count b
  | .chunks => readChunks (b.length + 1) b
  | .connection => if ended then .whole b [] else .partly

/-! ## Messages -/

/-- A request. -/
def readRequest (b : Bytes) : Arrival Request :=
  (readHead b).bind fun head rest => match head.words, head.bodyEnd? (.length 0) with
    | [method, target, _], some bodyEnd => (readBody false rest bodyEnd).map fun body =>
      { method, target, contentType := head.fields.lookup "content-type", body }
    | _, _ => .broken

/-- A response; `ended` tells that nothing more comes. -/
def readResponse (ended : Bool) (b : Bytes) : Arrival Response :=
  (readHead b).bind fun head rest => match head.words, head.bodyEnd? .connection with
    | _ :: status :: _, some bodyEnd =>
      match Text.Decimal.readNat 999 status.toList with
      | .error _ => .broken
      | .ok status =>
        if PeerCall.isBodiless status then .whole (.full status []) rest
        else (readBody ended rest bodyEnd).map (.full status ·)
    | _, _ => .broken

/-! ## Writing -/

/-- Lines, each with its end, and an empty one. -/
def headBytes (lines : List String) : Bytes :=
  Text.utf8 (String.join ((lines ++ [""]).map fun line => line ++ "\r\n"))

/-- A field for a body of a length. -/
def lengthField (body : Bytes) : String :=
  "content-length: " ++ Text.Decimal.ofNat body.length

/-- What a status means, in words. -/
def statusWords : Nat → String
  | 200 => "OK"
  | 400 => "Bad Request"
  | 404 => "Not Found"
  | 405 => "Method Not Allowed"
  | 409 => "Conflict"
  | 413 => "Payload Too Large"
  | 415 => "Unsupported Media Type"
  | 422 => "Unprocessable Entity"
  | 500 => "Internal Server Error"
  | 502 => "Bad Gateway"
  | 503 => "Service Unavailable"
  | _ => ""

/-- A reply as it is sent. -/
def Reply.message (r : Reply) : Bytes :=
  headBytes
    (["HTTP/1.1 " ++ Text.Decimal.ofNat r.status ++ " " ++ statusWords r.status,
        lengthField r.body] ++
      (r.contentType.map ("content-type: " ++ ·)).toList ++
      (r.version.map fun v => "x-version: " ++ Text.Decimal.ofInt v.toInt).toList) ++ r.body

/-- A request as it is sent; the connection ends with the response. -/
def Sent.message (s : Sent) : Bytes :=
  let port := s.url.port.elim "" fun p => ":" ++ Text.Decimal.ofNat p
  headBytes
    ([s.method ++ " " ++ s.url.target ++ " HTTP/1.1", "host: " ++ s.url.host ++ port,
        "accept: */*", "connection: close", lengthField s.body] ++
      (s.contentType.map ("content-type: " ++ ·)).toList) ++ s.body

end Replica.Http
