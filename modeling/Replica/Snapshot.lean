/-
# Snapshots

A whole store as JSON text: an object with one field for each key in order, and in it the
value as base64 and the version.  Reading takes more than is written: fields in any order,
fields of no meaning, an item as a list of value and version, and one key twice, of which the
last counts.
-/

import Replica.Json.Reader
import Replica.Json.Writer
import Replica.Store

namespace Replica

/-! ## Writing -/

/-- The characters of an item. -/
def Item.jsonChars (i : Item) : List Char :=
  Json.objectChars
    [("value", '\x22' ::
        (Text.Base64.encode i.value).map (fun b => Char.ofNat b.toNat) ++ ['\x22']),
      ("version", Text.Decimal.intChars i.version.toInt)]

/-- The text of a store. -/
def Store.snapshotChars (s : Store) : List Char :=
  Json.objectChars (s.items.entries.map fun e => (e.1, e.2.jsonChars))

/-- The bytes of a store. -/
def Store.snapshot (s : Store) : Bytes := Text.utf8 (String.ofList s.snapshotChars)

/-! ## Reading -/

namespace Snapshot

open Json

/-- The value of an item. -/
def readValue : Reader Bytes := fun s => do
  let (text, rest) ← readString s
  match Text.Base64.decode (Text.utf8 text) with
  | .ok value => return (value, rest)
  | .error _ => throw .misshapen

/-- The version of an item. -/
def readVersion : Reader Version := fun s => do
  let (n, rest) ← readInt Text.Decimal.greatestInt64 s
  return (Int64.ofInt n, rest)

/-- The fields of an item that have been met. -/
structure Gathered where
  value : Option Bytes := none
  version : Option Version := none

/-- A field of an item; none of the two may be met twice. -/
def readField (name : String) (g : Gathered) : Reader Gathered := fun s => do
  if name = "value" then
    if g.value.isSome then throw .misshapen
    let (v, rest) ← readValue (← readColon s)
    return ({ g with value := some v }, rest)
  else if name = "version" then
    if g.version.isSome then throw .misshapen
    let (v, rest) ← readVersion (← readColon s)
    return ({ g with version := some v }, rest)
  else
    return (g, ← skipValue (← readColon s))

/-- An item as a list of its value and its version, behind the bracket. -/
def readPair : Reader Item := fun s => do
  match ← nextItem true s with
  | (false, _) => throw .misshapen
  | (true, rest) =>
    let (value, rest) ← readValue rest
    match ← nextItem false rest with
    | (false, _) => throw .misshapen
    | (true, rest) =>
      let (version, rest) ← readVersion rest
      return (⟨value, version⟩, ← endList rest)

/-- An item. -/
def readItem : Reader Item := fun s =>
  match skipSpace s with
  | [] => .error .ended
  | b :: rest =>
    if b = openBrace then do
      let (g, rest) ← readFields readField (rest.length + 1) true {} rest
      match g.value, g.version with
      | some value, some version => return (⟨value, version⟩, ← endObject rest)
      | _, _ => throw .misshapen
    else if b = openBracket then readPair rest
    else .error (wrongShape (b :: rest))

/-- The item of a key, put with those before. -/
def readEntry (key : String) (items : Dict Item) : Reader (Dict Item) := fun s => do
  let (item, rest) ← readItem (← readColon s)
  return (items.insert key item, rest)

/-- All items. -/
def readItems : Reader (Dict Item) := fun s =>
  match skipSpace s with
  | [] => .error .ended
  | b :: rest =>
    if b = openBrace then do
      let (items, rest) ← readFields readEntry (rest.length + 1) true .empty rest
      return (items, ← endObject rest)
    else .error (wrongShape (b :: rest))

end Snapshot

/-- The store that the bytes spell. -/
def Store.ofSnapshot (b : Bytes) : Except Json.Fault Store := do
  return ⟨← Json.readWhole Snapshot.readItems b⟩

/-- The store that the bytes spell in the place of this one, which stays where they spell none. -/
def Store.load (s : Store) (b : Bytes) : Except Json.Fault Unit × Store :=
  match ofSnapshot b with
  | .ok t => (.ok (), t)
  | .error f => (.error f, s)

end Replica
