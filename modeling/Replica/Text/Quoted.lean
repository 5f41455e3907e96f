/-
# Quoted text

How a message shows a text from outside: between double quotes, with the quote, the backslash
and four controls escaped, and every character that would not show (`Table.unshown`) written
as its code point, `\u{ad}`.
-/

import Replica.Text.CharSet
import Replica.Text.Table.Unshown

namespace Replica.Text

/-- Whether a character would not show, or not by itself. -/
def isUnshown (c : Char) : Bool := CharSet.mem c.toNat Table.unshown

/-- One character of a quoted text. -/
def quotedChar (c : Char) : List Char :=
  if c = '\x00' then ['\\', '0']
  else if c = '\t' then ['\\', 't']
  else if c = '\n' then ['\\', 'n']
  else if c = '\r' then ['\\', 'r']
  else if c = '\x22' then ['\\', '\x22']
  else if c = '\\' then ['\\', '\\']
  else if isUnshown c then ['\\', 'u', '\x7b'] ++ Nat.toDigits 16 c.toNat ++ ['\x7d']
  else [c]

/-- The text between double quotes. -/
def quoted (s : String) : String :=
  String.ofList ('\x22' :: s.toList.flatMap quotedChar ++ ['\x22'])

end Replica.Text
