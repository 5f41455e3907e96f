/-
# Reading the small parts of a pattern

Flags, spaces, numbers and escapes.  Everything here takes the characters that are left and
gives those that are left then; nothing means that the pattern does not read.
-/

import Replica.Pattern.Case
import Replica.Pattern.Expr
import Replica.Pattern.Named
import Replica.Pattern.Property
import Replica.Text.Blank
import Replica.Text.Decimal
import Replica.Text.Hex

namespace Replica.Pattern

/-- What a pattern may switch on and off. -/
structure Flags where
  /-- `i`: case does not count. -/
  ignoreCase : Bool := false
  /-- `m`: `^` and `$` also hold at lines. -/
  multiLine : Bool := false
  /-- `s`: the dot takes a line feed too. -/
  dotAll : Bool := false
  /-- `u`: classes are those of Unicode. -/
  unicode : Bool := true
  /-- `R`: lines also end in a carriage return. -/
  anyLine : Bool := false
  /-- `x`: blanks and comments in the pattern mean nothing. -/
  spaced : Bool := false
  /-- `U`: short repetitions first, which no answer here shows. -/
  swapGreed : Bool := false

/-- What is left of a pattern. -/
abbrev Rest := List Char

/-- Without the blanks and the comments in front; a comment goes from `#` to the line's end. -/
def dropSpaces (inComment : Bool) : Rest → Rest
  | [] => []
  | c :: rest =>
    if inComment then dropSpaces (c ≠ '\n') rest
    else if Text.isBlank c then dropSpaces false rest
    else if c = '#' then dropSpaces true rest
    else c :: rest

/-- Where blanks mean nothing, what follows them. -/
def Flags.skip (f : Flags) (s : Rest) : Rest := if f.spaced then dropSpaces false s else s

/-- The character behind the next one, as a range or a difference is told from a hyphen: where
blanks mean nothing they are passed over, and a hash sign with them. -/
def Flags.second (f : Flags) (s : Rest) : Option Char :=
  match s with
  | [] => none
  | _ :: rest =>
    if f.spaced then
      match rest.dropWhile Text.isBlank with
      | '#' :: more => (more.dropWhile Text.isBlank).head? <|> rest.head?
      | [] => rest.head?
      | c :: _ => some c
    else rest.head?

/-! ## Flags -/

/-- The flag of a letter, switched on or off, or nothing if there is no such flag. -/
def Flags.put? (f : Flags) (letter : Char) (on : Bool) : Option Flags :=
  if letter = 'i' then some { f with ignoreCase := on }
  else if letter = 'm' then some { f with multiLine := on }
  else if letter = 's' then some { f with dotAll := on }
  else if letter = 'U' then some { f with swapGreed := on }
  else if letter = 'u' then some { f with unicode := on }
  else if letter = 'R' then some { f with anyLine := on }
  else if letter = 'x' then some { f with spaced := on }
  else none

/-- Flags up to a colon or a bracket: the new flags, the letters and the minus signs that were
read, the character that ends them, and the rest.  No letter comes twice, the minus sign comes
once, and a letter follows it. -/
def readFlags (f : Flags) (seen : List Char) : Rest → Option (Flags × List Char × Char × Rest)
  | [] => none
  | c :: rest =>
    if c = ':' || c = ')' then
      if seen.head? = some '-' then none else some (f, seen, c, rest)
    else if seen.contains c then none
    else if c = '-' then readFlags f (c :: seen) rest
    else
      match f.put? c (!seen.contains '-') with
      | none => none
      | some f => readFlags f (c :: seen) rest

/-! ## Numbers -/

/-- The decimal digits in front; spaces between them count where blanks mean something. -/
def takeDigits (f : Flags) : Nat → Rest → List Char × Rest
  | 0, s => ([], s)
  | fuel + 1, s =>
    match s with
    | c :: rest =>
      if '0' ≤ c ∧ c ≤ '9' then
        let (more, rest) := takeDigits f fuel (f.skip rest)
        (c :: more, rest)
      else ([], s)
    | [] => ([], [])

/-- A count of at most 32 bits, with blanks on either side. -/
def readCount (f : Flags) (s : Rest) : Option (Nat × Rest) :=
  let (digits, rest) := takeDigits f s.length (s.dropWhile Text.isBlank)
  let rest := f.skip (rest.dropWhile Text.isBlank)
  match Text.Decimal.readNat Text.Decimal.greatestWord32 digits with
  | .ok n => some (n, rest)
  | .error _ => none

/-- The character of a number, if it is one. -/
def charOf? (n : Nat) : Option Char :=
  if h : n.isValidChar then some (Char.ofNatAux n h) else none

/-- Just `count` hexadecimal digits. -/
def readHexDigits (f : Flags) : (count value : Nat) → Rest → Option (Nat × Rest)
  | 0, value, s => some (value, s)
  | _ + 1, _, [] => none
  | count + 1, value, c :: rest =>
    match Text.hexValue? c with
    | none => none
    | some d => readHexDigits f count (value * 16 + d) (f.skip rest)

/-- Hexadecimal digits up to a closing brace, which is taken too. -/
def readHexBraced (f : Flags) : (fuel value digits : Nat) → Rest → Option (Nat × Rest)
  | fuel + 1, value, digits, c :: rest =>
    if c = '\x7d' then if digits = 0 then none else some (value, f.skip rest)
    else match Text.hexValue? c with
      | none => none
      | some d => readHexBraced f fuel (value * 16 + d) (digits + 1) (f.skip rest)
  | _, _, _, _ => none

/-! ## Escapes -/

/-- One part of a pattern that repetitions and ranges look at. -/
inductive Atom where
  /-- A character; `byte` tells that it was written as a byte, `\xE9`. -/
  | literal (c : Char) (byte : Bool)
  | set (s : CharSet)
  | look (l : Look)

/-- A character by its number: two, four or eight digits, or braces. -/
def readHexEscape (f : Flags) (kind : Char) (s : Rest) : Option (Atom × Rest) := do
  let s := f.skip s
  match s with
  | '\x7b' :: rest =>
    let (n, rest) ← readHexBraced f rest.length 0 0 (f.skip rest)
    let c ← charOf? n
    return (.literal c false, rest)
  | _ =>
    let digits := if kind = 'x' then 2 else if kind = 'u' then 4 else 8
    let (n, rest) ← readHexDigits f digits 0 s
    let c ← charOf? n
    return (.literal c (kind = 'x'), rest)

/-- The set under a property's name, `negated` telling whether its complement is meant. -/
def propertySet (f : Flags) (negated : Bool) (found : Option CharSet) : Option CharSet :=
  if f.unicode then
    found.map fun s =>
      let s := if f.ignoreCase then s.withCase false else s
      if negated then s.compl else s
  else none

/-- The name between braces, blanks left out where they mean nothing. -/
def takeBraced (f : Flags) : Nat → Rest → Option (List Char × Rest)
  | fuel + 1, c :: rest =>
    if c = '\x7d' then some ([], rest)
    else (takeBraced f fuel (f.skip rest)).map fun (name, rest) => (c :: name, rest)
  | _, _ => none

/-- What stands before and behind the first place where `mark` stands. -/
def splitAt? (mark : List Char) : List Char → Option (List Char × List Char)
  | [] => none
  | c :: rest =>
    if mark.isPrefixOf (c :: rest) then some ([], (c :: rest).drop mark.length)
    else (splitAt? mark rest).map fun (before, behind) => (c :: before, behind)

/-- The set that a name between braces stands for, and whether its complement is meant. -/
def bracedProperty (name : List Char) : Option CharSet × Bool :=
  match splitAt? ['!', '='] name with
  | some (n, v) => (CharSet.ofNameValue? (.ofList n) (.ofList v), true)
  | none =>
    match splitAt? [':'] name <|> splitAt? ['='] name with
    | some (n, v) => (CharSet.ofNameValue? (.ofList n) (.ofList v), false)
    | none => (CharSet.ofName? (.ofList name), false)

/-- The rest of `\p` or `\P`. -/
def readProperty (f : Flags) (negated : Bool) (s : Rest) : Option (Atom × Rest) := do
  match f.skip s with
  | [] => none
  | c :: rest =>
    if c = '\x7b' then
      let (name, rest) ← takeBraced f rest.length (f.skip rest)
      let (found, other) := bracedProperty name
      let set ← propertySet f (negated ≠ other) found
      return (.set set, rest)
    else if c = '\\' then none
    else
      let set ← propertySet f negated (CharSet.ofName? (String.singleton c))
      return (.set set, f.skip rest)

/-- Whether a character stands for itself behind a backslash. -/
def isEscapable (c : Char) : Bool :=
  c.toNat < 0x80 && !c.isAlphanum && c ≠ '<' && c ≠ '>'

/-- The letters and hyphens in front. -/
def takeBoundaryName (f : Flags) : Nat → Rest → List Char × Rest
  | fuel + 1, c :: rest =>
    if c.isAlpha || c = '-' then
      let (more, rest) := takeBoundaryName f fuel (f.skip rest)
      (c :: more, rest)
    else ([], c :: rest)
  | _, s => ([], s)

/-- The rest of `\b`: a name in braces makes it one-sided.  What cannot be such a name is left
to be read as a count. -/
def readBoundary (f : Flags) (s : Rest) : Option (Atom × Rest) :=
  let ascii := !f.unicode
  match s with
  | '\x7b' :: rest =>
    match f.skip rest with
    | [] => none
    | c :: more =>
      if c.isAlpha || c = '-' then
        let (name, rest) := takeBoundaryName f (more.length + 1) (c :: more)
        let look : Option Look :=
          if name = "start".toList then some (.wordStart ascii)
          else if name = "end".toList then some (.wordEnd ascii)
          else if name = "start-half".toList then some (.wordStartHalf ascii)
          else if name = "end-half".toList then some (.wordEndHalf ascii)
          else none
        match look, rest with
        | some l, '\x7d' :: rest => some (.look l, rest)
        | _, _ => none
      else some (.look (.wordBoundary ascii), s)
  | _ => some (.look (.wordBoundary ascii), s)

/-- What stands behind a backslash. -/
def readEscape (f : Flags) : Rest → Option (Atom × Rest)
  | [] => none
  | c :: rest =>
    if c = 'x' || c = 'u' || c = 'U' then readHexEscape f c rest
    else if c = 'p' || c = 'P' then readProperty f (c = 'P') rest
    else match CharSet.ofLetter? (!f.unicode) c with
      | some set => if f.unicode || !(c.isUpper) then some (.set set, rest) else none
      | none =>
        let ascii := !f.unicode
        if isEscapable c then some (.literal c false, rest)
        else if c = 'a' then some (.literal '\x07' false, rest)
        else if c = 'f' then some (.literal '\x0c' false, rest)
        else if c = 't' then some (.literal '\t' false, rest)
        else if c = 'n' then some (.literal '\n' false, rest)
        else if c = 'r' then some (.literal '\r' false, rest)
        else if c = 'v' then some (.literal '\x0b' false, rest)
        else if c = 'A' then some (.look .textStart, rest)
        else if c = 'z' then some (.look .textEnd, rest)
        else if c = 'b' then readBoundary f rest
        else if c = 'B' then some (.look (.noWordBoundary ascii), rest)
        else if c = '<' then some (.look (.wordStart ascii), rest)
        else if c = '>' then some (.look (.wordEnd ascii), rest)
        else none

/-- The set of one character, its case variants with it where case does not count.  Bytes
beyond ASCII spell no character, so they are refused where classes are not those of
Unicode. -/
def literalSet (f : Flags) (c : Char) (byte : Bool) : Option CharSet :=
  if !f.unicode && byte && 0x80 ≤ c.toNat then none
  else if !f.ignoreCase then some (.singleton c)
  else if !f.unicode && 0x80 ≤ c.toNat then some (.singleton c)
  else some ((CharSet.singleton c).withCase (!f.unicode))

end Replica.Pattern
