/-
# Classes with a name

Digits, blanks and word characters (`\d`, `\s`, `\w`), and the classes of ASCII that stand
between colons (`[:alpha:]`).
-/

import Replica.Text.CharSet
import Replica.Text.Table.Digit
import Replica.Text.Table.Word

namespace Replica.CharSet

def digit (ascii : Bool) : CharSet := if ascii then ⟨[(0x30, 0x39)]⟩ else ⟨Text.Table.digit⟩

/-- Blanks; in ASCII the space and what stands from tab to carriage return. -/
def blank (ascii : Bool) : CharSet :=
  if ascii then ⟨[(0x09, 0x0D), (0x20, 0x20)]⟩
  else ⟨[(0x09, 0x0D), (0x20, 0x20), (0x85, 0x85), (0xA0, 0xA0), (0x1680, 0x1680),
    (0x2000, 0x200A), (0x2028, 0x2029), (0x202F, 0x202F), (0x205F, 0x205F), (0x3000, 0x3000)]⟩

def word (ascii : Bool) : CharSet :=
  if ascii then ⟨[(0x30, 0x39), (0x41, 0x5A), (0x5F, 0x5F), (0x61, 0x7A)]⟩ else ⟨Text.Table.word⟩

/-- The class that a letter behind a backslash names, a capital its complement. -/
def ofLetter? (ascii : Bool) (c : Char) : Option CharSet :=
  if c = 'd' then some (digit ascii)
  else if c = 's' then some (blank ascii)
  else if c = 'w' then some (word ascii)
  else if c = 'D' then some (digit ascii).compl
  else if c = 'S' then some (blank ascii).compl
  else if c = 'W' then some (word ascii).compl
  else none

/-- The class of ASCII that a name between colons names. -/
def ofAsciiName? (name : String) : Option CharSet :=
  (asciiNames.lookup name).map (⟨·⟩)
where
  asciiNames : List (String × List (Nat × Nat)) :=
    [("alnum", [(0x30, 0x39), (0x41, 0x5A), (0x61, 0x7A)]),
      ("alpha", [(0x41, 0x5A), (0x61, 0x7A)]),
      ("ascii", [(0x00, 0x7F)]),
      ("blank", [(0x09, 0x09), (0x20, 0x20)]),
      ("cntrl", [(0x00, 0x1F), (0x7F, 0x7F)]),
      ("digit", [(0x30, 0x39)]),
      ("graph", [(0x21, 0x7E)]),
      ("lower", [(0x61, 0x7A)]),
      ("print", [(0x20, 0x7E)]),
      ("punct", [(0x21, 0x2F), (0x3A, 0x40), (0x5B, 0x60), (0x7B, 0x7E)]),
      ("space", [(0x09, 0x0D), (0x20, 0x20)]),
      ("upper", [(0x41, 0x5A)]),
      ("word", [(0x30, 0x39), (0x41, 0x5A), (0x5F, 0x5F), (0x61, 0x7A)]),
      ("xdigit", [(0x30, 0x39), (0x41, 0x46), (0x61, 0x66)])]

end Replica.CharSet
