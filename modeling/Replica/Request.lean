/-
# Requests and their lines

One intended write, whoever asked for it, and the line of text that carries it:
`version origin action key [base64 of the value]`.  The same line goes into the log and to the
peers.  The value is left out when it is empty, and always for a delete; reading a delete
looks at no field behind the key.
-/

import Replica.Key
import Replica.Version
import Replica.Text.Base64
import Replica.Text.Decimal

namespace Replica

/-- Who asked for a write.  Only what a client asked for is offered to the peers. -/
inductive Origin where
  | client
  | peer
deriving DecidableEq, Repr

inductive Action where
  | set
  | delete
deriving DecidableEq, Repr

/-- Why a line carries no request. -/
inductive RecordFault where
  | tooFewFields (found : Nat)
  | version (field : String) (fault : Text.Decimal.Fault)
  | origin (field : String)
  | action (field : String)
  | value (fault : Text.Base64.Fault)
  | moreThanOneValue
deriving DecidableEq, Repr

def RecordFault.message : RecordFault → String
  | .tooFewFields n => "expected at least 4 fields, found " ++ Text.Decimal.ofNat n
  | .version s fault => "bad tx id " ++ Text.quoted s ++ ": " ++ fault.message
  | .origin s => "unknown origin " ++ Text.quoted s
  | .action s => "unsupported action " ++ Text.quoted s
  | .value fault => "bad base64 value: " ++ fault.message
  | .moreThanOneValue => "more than one value field"

namespace Origin

def token : Origin → String
  | .client => "req"
  | .peer => "sync"

def ofToken (s : String) : Except RecordFault Origin :=
  if s = "req" then .ok .client
  else if s = "sync" then .ok .peer
  else .error (.origin s)

@[simp] theorem ofToken_token (o : Origin) : ofToken o.token = .ok o := by cases o <;> rfl

end Origin

namespace Action

def token : Action → String
  | .set => "set"
  | .delete => "del"

def ofToken (s : String) : Except RecordFault Action :=
  if s = "set" then .ok .set
  else if s = "del" then .ok .delete
  else .error (.action s)

@[simp] theorem ofToken_token (a : Action) : ofToken a.token = .ok a := by cases a <;> rfl

end Action

/-- One intended write; the value means nothing for a delete. -/
structure Request where
  version : Version
  origin : Origin
  action : Action
  key : String
  value : Bytes
deriving DecidableEq, Repr

namespace Request

def set (version : Version) (origin : Origin) (key : String) (value : Bytes) : Request :=
  { version, origin, action := .set, key, value }

/-- A delete carries the empty value. -/
def delete (version : Version) (origin : Origin) (key : String) : Request :=
  { version, origin, action := .delete, key, value := [] }

/-- The same request as a peer hands it on. -/
def toPeer (r : Request) : Request := { r with origin := .peer }

/-- Whether the line of the request has a value field. -/
def showsValue (r : Request) : Bool := r.action = .set && !r.value.isEmpty

/-- The characters of the line that carries the request. -/
def recordChars (r : Request) : List Char :=
  Text.Decimal.intChars r.version.toInt ++ ' ' :: r.origin.token.toList ++
    ' ' :: r.action.token.toList ++ ' ' :: r.key.toList ++
    if r.showsValue then ' ' :: (Text.Base64.encode r.value).map fun b => Char.ofNat b.toNat
    else []

/-- The line that carries the request. -/
def record (r : Request) : String := String.ofList r.recordChars

/-- The value that the fields behind the key spell. -/
def valueOfFields : List (List Char) → Except RecordFault Bytes
  | [] => .ok []
  | [field] => (Text.Base64.decode (Text.utf8 (String.ofList field))).mapError .value
  | _ => .error .moreThanOneValue

/-- The request that some fields spell, the first fault deciding. -/
def ofFields : List (List Char) → Except RecordFault Request
  | version :: origin :: action :: key :: rest => do
    let v ← (Text.Decimal.readInt Text.Decimal.greatestInt64 version).mapError
      (RecordFault.version (String.ofList version))
    let o ← Origin.ofToken (String.ofList origin)
    let a ← Action.ofToken (String.ofList action)
    match a with
    | .delete => return delete (Int64.ofInt v) o (String.ofList key)
    | .set => return set (Int64.ofInt v) o (String.ofList key) (← valueOfFields rest)
  | fields => .error (.tooFewFields fields.length)

/-- The request that a line carries. -/
def ofRecord (line : String) : Except RecordFault Request :=
  ofFields (Text.fields line.toList)

/-- A request for a diagnostic; of the value only the length is told. -/
def describe (r : Request) : String :=
  "TxRequest \x7b tx_id: " ++ Text.Decimal.ofInt r.version.toInt ++
    ", origin: " ++ (match r.origin with | .client => "Local" | .peer => "Remote") ++
    ", action: " ++ (match r.action with | .set => "Set" | .delete => "Delete") ++
    ", key: " ++ Text.quoted r.key ++
    ", value_len: " ++ Text.Decimal.ofNat r.value.length ++ " \x7d"

end Request

end Replica
