/-
# Media types

Whether the type of a body says that it is JSON: `application/json` or `application/…+json`,
in any case, with well-formed parameters behind it if any.
-/

import Replica.Text.Bytes

namespace Replica.Http

/-- Whether a character may stand in a name of a media type. -/
def isTokenChar (c : Char) : Bool := c.isAlphanum || "!#$%&'*+-.^_`|~".toList.contains c

/-- Whether a character may stand between quotes. -/
def isQuotableChar (c : Char) : Bool := 31 < c.toNat && c.toNat ≠ 127

/-- Behind a quoted value: spaces, and then the end or the next parameter. -/
def skipToParameter : List Char → Option (List Char)
  | [] => some []
  | c :: rest => if c = ' ' then skipToParameter rest else if c = ';' then some rest else none

/-- The value of a parameter, and what follows it. -/
def readParameterValue (s : List Char) : Option (List Char) :=
  match s with
  | '\x22' :: rest =>
    -- A quote that comes first does not end the value.
    let value := rest.head?.toList ++ (rest.drop 1).takeWhile (· ≠ '\x22')
    if value.all isQuotableChar then
      match rest.drop value.length with
      | _ :: behind => skipToParameter behind
      | [] => none
    else none
  | _ =>
    let value := s.takeWhile isTokenChar
    match s.drop value.length with
    | [] => some []
    | c :: rest => if c = ';' && !value.isEmpty then some rest else none

/-- Whether parameters are well formed: names with values, semicolons between them, spaces in
front of a name. -/
def parametersRead : (fuel : Nat) → List Char → Bool
  | 0, _ => false
  | fuel + 1, s =>
    let s := s.dropWhile (· = ' ')
    if s.isEmpty then true
    else
      let name := s.takeWhile isTokenChar
      match s.drop name.length with
      | '=' :: rest =>
        if name.isEmpty then false
        else match readParameterValue rest with
          | some rest => parametersRead fuel rest
          | none => false
      | _ => false

/-- Whether a subtype says JSON, as a whole or in front of or behind its last plus sign. -/
def saysJson (subtype : List Char) : Bool :=
  let reversed := subtype.reverse
  let behind := (reversed.takeWhile (· ≠ '+')).reverse
  let front := ((reversed.dropWhile (· ≠ '+')).drop 1).reverse
  behind = "json".toList || front = "json".toList

/-- Whether a character may stand in a header at all. -/
def isHeaderChar (c : Char) : Bool := c = '\t' || (31 < c.toNat && c.toNat < 127)

/-- Whether a media type says JSON. -/
def isJsonType (s : String) : Bool :=
  let cs := s.toList
  cs.all isHeaderChar &&
  let type := cs.takeWhile isTokenChar
  match cs.drop type.length with
  | '/' :: rest =>
    let subtype := rest.takeWhile isTokenChar
    let lower := subtype.map Char.toLower
    type.map Char.toLower = "application".toList && !subtype.isEmpty && saysJson lower &&
      (match rest.drop subtype.length with
        | [] => true
        | c :: params => c = ';' && parametersRead (params.length + 1) params)
  | _ => false

end Replica.Http
