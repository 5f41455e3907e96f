/-
# Settings of a node

Who the node is, where its files are, who its peers are, and how it sends to them.  Every
setting has a default; `ofEnvironment` takes three of them from variables.
-/

import Replica.Error
import Replica.Span

namespace Replica

/-- How records are sent to one peer. -/
structure SenderSettings where
  /-- How many records may wait; at least one always may. -/
  queueCapacity : Nat := 100
  /-- The most records in one call. -/
  maxBatch : Nat := 20
  /-- How long a batch may take to fill. -/
  batchWindow : Span := .ofMillis 50
  /-- The pause after a window that brought nothing. -/
  idlePause : Span := .ofSeconds 1
  /-- The first delay before a batch is sent again. -/
  backoffUnit : Span := .ofSeconds 1
  /-- A batch is given up when the delay would pass this. -/
  backoffCap : Span := .ofSeconds 1024
  /-- How long a call may take. -/
  callLimit : Span := .ofSeconds 1
deriving DecidableEq

structure Settings where
  node : UInt32 := 0
  directory : String := "./ripplekv_data"
  peers : List String := []
  /-- How many requests may wait for the pipeline; at least one always may. -/
  intakeCapacity : Nat := 1000
  sender : SenderSettings := {}
deriving DecidableEq

/-- The addresses of a list with commas, without blanks around them and without empty ones. -/
def parsePeers (list : String) : List String :=
  (((Text.pieces (· = ',') list.toList).map Text.trim).filter fun a => !a.isEmpty).map
    String.ofList

/-- What the environment says about a node; a variable that is not set says nothing. -/
structure Environment where
  node : Option String := none
  peers : Option String := none
  directory : Option String := none
deriving DecidableEq

namespace Environment

def nodeVariable : String := "RIPPLEKV_NODE_ID"

def peersVariable : String := "RIPPLEKV_PEERS"

def directoryVariable : String := "RIPPLEKV_DATA_DIR"

end Environment

namespace Settings

/-- A file in a directory: a slash between them unless the directory ends in one or is empty. -/
def inDirectory (directory file : String) : String :=
  if directory.isEmpty || directory.toList.getLast? = some '/' then directory ++ file
  else directory ++ "/" ++ file

def snapshotName : String := "snapshot.dat"

/-- The name under which a snapshot is written before it takes its own. -/
def draftName : String := "snapshot.dat.tmp"

def logName : String := "tx.dat"

def snapshotPath (s : Settings) : String := inDirectory s.directory snapshotName

def draftPath (s : Settings) : String := inDirectory s.directory draftName

def logPath (s : Settings) : String := inDirectory s.directory logName

/-- The node number that a variable spells, blanks around it left out. -/
def readNode (name value : String) : Except SettingFault UInt32 :=
  match Text.Decimal.readNat Text.Decimal.greatestWord32 (Text.trim value.toList) with
  | .ok n => .ok (UInt32.ofNat n)
  | .error fault => .error (.variable name value fault)

/-- The defaults, but for what the environment says. -/
def ofEnvironment (env : Environment) : Except SettingFault Settings := do
  let defaults : Settings := {}
  let node ← match env.node with
    | some value => readNode Environment.nodeVariable value
    | none => pure defaults.node
  return { defaults with
    node
    peers := (env.peers.map parsePeers).getD defaults.peers
    directory := env.directory.getD defaults.directory }

end Settings

end Replica
