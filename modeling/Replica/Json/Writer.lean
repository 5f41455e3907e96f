/-
# Writing JSON

The compact form: nothing between the signs.  In strings only the quote, the backslash and the
controls below U+0020 are escaped; every other character stands as it is.
-/

import Replica.Text.Decimal
import Replica.Text.Hex

namespace Replica.Json

/-- One character of a string. -/
def stringChar (c : Char) : List Char :=
  if c = '\x22' then ['\\', '\x22']
  else if c = '\\' then ['\\', '\\']
  else if c = '\x08' then ['\\', 'b']
  else if c = '\x0c' then ['\\', 'f']
  else if c = '\n' then ['\\', 'n']
  else if c = '\r' then ['\\', 'r']
  else if c = '\t' then ['\\', 't']
  else if c.toNat < 0x20 then
    ['\\', 'u', '0', '0', Text.hexDigit (c.toNat / 16), Text.hexDigit (c.toNat % 16)]
  else [c]

/-- A string in its quotes. -/
def stringChars (s : String) : List Char :=
  '\x22' :: s.toList.flatMap stringChar ++ ['\x22']

/-- Written values between commas. -/
def between (values : List (List Char)) : List Char := (values.intersperse [',']).flatten

def arrayChars (values : List (List Char)) : List Char := '[' :: between values ++ [']']

/-- An object of names and written values. -/
def objectChars (fields : List (String × List Char)) : List Char :=
  '\x7b' :: between (fields.map fun f => stringChars f.1 ++ ':' :: f.2) ++ ['\x7d']

/-- A list of strings. -/
def stringsChars (l : List String) : List Char := arrayChars (l.map stringChars)

end Replica.Json
