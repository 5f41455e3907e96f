/-
# Classes by Unicode property

What `\p{…}` names: a property that a character has or has not, a general category or a
script.  Names are compared without regard to case, spaces, hyphens and underscores, and
without `is` in front.
-/

import Replica.Text.CharSet
import Replica.Text.Hex
import Replica.Text.Blank
import Replica.Text.Table.Category
import Replica.Text.Table.Property
import Replica.Text.Table.Script

namespace Replica.CharSet

/-- The number that hexadecimal digits spell. -/
def hexNumber (s : List Char) : Nat :=
  s.foldl (fun n c => n * 16 + (Text.hexValue? c).getD 0) 0

/-- The set of ranges written as `41-5A 61-7A AA`, in lines. -/
def ofRangeText (lines : List String) : CharSet :=
  ⟨(lines.flatMap fun s => Text.fields s.toList).map fun range =>
    match Text.pieces (· = '-') range with
    | [low, high] => (hexNumber low, hexNumber high)
    | _ => (hexNumber range, hexNumber range)⟩

/-- A name as names are compared. -/
def looseName (s : String) : String :=
  let cs := s.toList
  let hasIs := match cs with
    | a :: b :: _ => (a = 'i' || a = 'I') && (b = 's' || b = 'S')
    | _ => false
  let loose := (if hasIs then cs.drop 2 else cs).filterMap fun c =>
    if c = ' ' || c = '_' || c = '-' || 0x80 ≤ c.toNat then none else some c.toLower
  if hasIs && loose = ['c'] then "isc" else String.ofList loose

/-- The set under one of the names of a table. -/
def ofTable? (table : List (List String × List String)) (name : String) : Option CharSet :=
  (table.find? fun entry => entry.1.contains name).map fun entry => ofRangeText entry.2

/-- A general category, a group of them, or one of three further sets. -/
def ofCategory? (name : String) : Option CharSet :=
  if name = "any" then some all
  else if name = "ascii" then some ⟨[(0, 0x7F)]⟩
  else if name = "assigned" then (ofTable? Text.Table.category "cn").map compl
  else ofTable? Text.Table.category name

/-- The set that a name alone stands for.  Three short names of categories are short names of
other things too; the category is meant. -/
def ofName? (name : String) : Option CharSet :=
  let name := looseName name
  let property :=
    if name = "cf" || name = "sc" || name = "lc" then none
    else ofTable? Text.Table.property name
  property <|> ofCategory? name <|> ofTable? Text.Table.script name

/-- The set that a name and a value stand for. -/
def ofNameValue? (name value : String) : Option CharSet :=
  let name := looseName name
  let value := looseName value
  if name = "gc" || name = "generalcategory" then ofCategory? value
  else if name = "sc" || name = "script" then ofTable? Text.Table.script value
  else none

end Replica.CharSet
