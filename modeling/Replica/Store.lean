/-
# The store

What every key holds.  **The newest write wins**: a set or a delete takes effect when its key
holds nothing newer, equal versions included.  A delete leaves nothing behind, so what is older
than it can come back.
-/

import Replica.Dict
import Replica.Error
import Replica.Item
import Replica.Pattern.Parser

namespace Replica

/-- What became of a set. -/
inductive SetOutcome where
  /-- The key held nothing. -/
  | created
  /-- The key held this, which was not newer. -/
  | applied (old : Item)
  /-- The key holds this, which is newer; nothing has changed. -/
  | rejectedStale (current : Item)
deriving DecidableEq, Repr

namespace SetOutcome

/-- Whether the key held something before. -/
def existed : SetOutcome → Bool
  | .created => false
  | _ => true

/-- Whether the write took effect. -/
def isApplied : SetOutcome → Bool
  | .rejectedStale _ => false
  | _ => true

/-- What the key held before. -/
def old : SetOutcome → Option Item
  | .created => none
  | .applied i => some i
  | .rejectedStale i => some i

/-- An outcome for a diagnostic. -/
def describe : SetOutcome → String
  | .created => "Created"
  | .applied i => "Applied \x7b old: " ++ i.describe ++ " \x7d"
  | .rejectedStale i => "RejectedStale \x7b current: " ++ i.describe ++ " \x7d"

end SetOutcome

/-- A change that a write made to a key. -/
structure Change where
  action : Action
  key : String
  old : Option Item
  new : Option Item
deriving DecidableEq, Repr

/-- What every key holds. -/
structure Store where
  items : Dict Item
deriving DecidableEq, Repr

namespace Store

def empty : Store := ⟨.empty⟩

instance : Inhabited Store := ⟨empty⟩

def get? (s : Store) (key : String) : Option Item := s.items.get? key

def size (s : Store) : Nat := s.items.size

/-- Puts an item under a key unless the key holds a newer one. -/
def set (s : Store) (key : String) (item : Item) : SetOutcome × Store :=
  match s.get? key with
  | none => (.created, ⟨s.items.insert key item⟩)
  | some held =>
    if held.version ≤ item.version then (.applied held, ⟨s.items.insert key item⟩)
    else (.rejectedStale held, s)

/-- Takes away what a key holds unless it is newer than `version`. -/
def delete (s : Store) (key : String) (version : Version) : Except Error Item × Store :=
  match s.get? key with
  | none => (.error (.notFound key), s)
  | some held =>
    if held.version ≤ version then (.ok held, ⟨s.items.erase key⟩)
    else (.error (.conflict key held.version version), s)

/-- The keys in which a pattern is found, in order; the empty pattern is found in each. -/
def keys (s : Store) (pattern : String) : Except Error (List String) :=
  if pattern.isEmpty then .ok s.items.keys
  else match Pattern.ofText? pattern with
    | some e => .ok (s.items.keys.filter e.foundIn)
    | none => .error (.malformed (.pattern pattern))

/-- The effect of a request, and the change it made if it made one. -/
def apply (s : Store) (r : Request) : Option Change × Store :=
  match r.action with
  | .set =>
    let item : Item := ⟨r.value, r.version⟩
    let (outcome, s) := s.set r.key item
    (if outcome.isApplied then some ⟨.set, r.key, outcome.old, some item⟩ else none, s)
  | .delete =>
    match s.delete r.key r.version with
    | (.ok old, s) => (some ⟨.delete, r.key, some old, none⟩, s)
    | (.error _, s) => (none, s)

/-- The effect of requests, one after another. -/
def applyAll (s : Store) (rs : List Request) : Store := rs.foldl (fun s r => (s.apply r).2) s

end Store

end Replica
