/-
# Errors

What an operation on a node can refuse with, as causes; `message` words them and `status` is
the HTTP status that tells them.
-/

import Replica.Request

namespace Replica

/-- What is wrong with an input. -/
inductive Malformation where
  | record (fault : RecordFault)
  | key (fault : KeyFault)
  /-- A pattern that does not read. -/
  | pattern (text : String)
  /-- An answer of the peer at an address that does not read. -/
  | answer (address : String)
  /-- As told by a peer. -/
  | told (text : String)
deriving DecidableEq, Repr

def Malformation.message : Malformation → String
  | .record fault => fault.message
  | .key fault => fault.message
  | .pattern text => "invalid key pattern " ++ Text.quoted text
  | .answer address => "response from " ++ address
  | .told text => text

/-- What is wrong with the settings of a node. -/
inductive SettingFault where
  | nodeOutOfRange (node : Nat)
  /-- A variable of the environment that should hold a node number. -/
  | variable (name : String) (value : String) (fault : Text.Decimal.Fault)
  /-- As told by a peer. -/
  | told (text : String)
deriving DecidableEq, Repr

def SettingFault.message : SettingFault → String
  | .nodeOutOfRange n => "node id " ++ Text.Decimal.ofNat n ++ " out of range, must be below 1000"
  | .variable name value fault => name ++ "=" ++ Text.quoted value ++ ": " ++ fault.message
  | .told text => text

inductive Error where
  /-- A delete older than what is stored. -/
  | conflict (key : String) (stored attempted : Version)
  | notFound (key : String)
  /-- A queue that holds all it may. -/
  | queueFull
  /-- A call to a peer that did not end in time. -/
  | timeout
  | unreachable (address : String)
  /-- A peer that took fewer records than it was sent. -/
  | partialPush (accepted sent : Nat)
  | malformed (fault : Malformation)
  /-- What has been shut down takes no more work. -/
  | closed
  | settings (fault : SettingFault)
  /-- A failure of the system, as it words it. -/
  | system (text : String)
deriving DecidableEq, Repr

namespace Error

def message : Error → String
  | .conflict key stored attempted =>
    "version conflict on key " ++ Text.quoted key ++ ": stored " ++
      Text.Decimal.ofInt stored.toInt ++ ", attempted " ++ Text.Decimal.ofInt attempted.toInt
  | .notFound key => "key not found: " ++ Text.quoted key
  | .queueFull => "queue is full"
  | .timeout => "remote call timed out"
  | .unreachable address => "peer unreachable: " ++ address
  | .partialPush accepted sent =>
    "peer accepted " ++ Text.Decimal.ofNat accepted ++ " of " ++ Text.Decimal.ofNat sent ++
      " records"
  | .malformed fault => "malformed input: " ++ fault.message
  | .closed => "component is shut down"
  | .settings fault => "invalid configuration: " ++ fault.message
  | .system text => "io error: " ++ text

/-- The HTTP status that tells the error. -/
def status : Error → Nat
  | .malformed _ => 400
  | .notFound _ => 404
  | .conflict .. => 409
  | .queueFull | .closed => 503
  | .partialPush .. => 502
  | _ => 500

end Error

end Replica
