/-
# The log

Every request that was processed, one line each, in a file that only grows.  Reading it back
passes over blank lines and lines that carry no request, such as one that was cut off; only
bytes that spell no text make it fail.
-/

import Replica.Disk
import Replica.Request

namespace Replica

/-- A log file, open or closed. -/
structure Log where
  path : Path
  isOpen : Bool
deriving DecidableEq, Repr

/-- Why a line could not be written. -/
inductive LogFault where
  | closed
  | disk (fault : DiskFault)
deriving DecidableEq, Repr

namespace Log

/-- The bytes of a line. -/
def line (r : Request) : Bytes := Text.utf8 (r.record ++ "\n")

/-- Opens a log at its end; its directory is made if it is missing. -/
def openAt (d : Disk) (path : Path) : Except DiskFault Log × Disk :=
  match d.makeDirs path.parent with
  | .error f => (.error f, d)
  | .ok d =>
    match d.openAppend path with
    | .error f => (.error f, d)
    | .ok d => (.ok ⟨path, true⟩, d)

/-- Writes the line of a request. -/
def append (l : Log) (d : Disk) (r : Request) : Except LogFault Disk :=
  if l.isOpen then (d.append l.path (line r)).mapError .disk else .error .closed

/-- Closes a log; it counts as closed even if it could not be stored. -/
def close (l : Log) (d : Disk) : Except DiskFault Unit × Log :=
  (if l.isOpen then d.sync l.path else .ok (), { l with isOpen := false })

/-! ## Reading -/

/-- The lines of a file: what stands in front of each line feed, and what stands behind the
last if anything does. -/
def lines (b : Bytes) : List Bytes :=
  let all := Text.pieces (· = Text.lineFeed) b
  if all.getLast? = some [] then all.dropLast else all

/-- The requests that lines carry, or nothing if a line spells no text. -/
def requestsOfLines : List Bytes → Option (List Request)
  | [] => some []
  | l :: rest => do
    let text ← Text.ofUtf8? l
    let more ← requestsOfLines rest
    match Request.ofRecord text with
    | .ok r => pure (r :: more)
    | .error _ => pure more

/-- The requests that the bytes of a log carry. -/
def requests (b : Bytes) : Except DiskFault (List Request) :=
  match requestsOfLines (lines b) with
  | some rs => .ok rs
  | none => .error .invalidData

/-- The requests in a log file. -/
def read (d : Disk) (path : Path) : Except DiskFault (List Request) :=
  match d.read path with
  | .error f => .error f
  | .ok b => requests b

end Log

end Replica
