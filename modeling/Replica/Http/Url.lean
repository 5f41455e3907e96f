/-
# Addresses on the web

Where a call goes: a scheme, a host, a port unless it is the usual one, a path and a query.
Texts are read as browsers read them: blanks at the ends and line breaks are passed over, a
backslash is a slash, dots in a path are followed, numbers for hosts are addresses, and what
may not stand as it is gets a percent sign.
-/

import Replica.Net.Ip
import Replica.Text.Percent
import Replica.Text.Punycode
import Replica.Text.Table.Word
import Replica.Text.CharSet

namespace Replica.Http

structure Url where
  secure : Bool
  host : String
  /-- Nothing for the usual port of the scheme. -/
  port : Option Nat
  path : String
  query : Option String
deriving DecidableEq, Repr

/-! ## Hosts -/

/-- A number of a host that is an address: hexadecimal behind `0x`, octal behind `0`. -/
def looseNumber? (s : List Char) : Option Nat :=
  match s with
  | [] => none
  | '0' :: x :: rest =>
    if x = 'x' || x = 'X' then digitsOf 16 rest else digitsOf 8 (x :: rest)
  | _ => digitsOf 10 s
where
  digitsOf (base : Nat) (s : List Char) : Option Nat :=
    s.foldlM (fun n c => do
      let d ← Text.hexValue? c
      if d < base then pure (n * base + d) else none) 0

/-- The labels of a host, an empty one at the end left out. -/
def labels (host : List Char) : List (List Char) :=
  let all := Text.pieces (· = '.') host
  if 1 < all.length && all.getLast? = some [] then all.dropLast else all

/-- Whether a host ends in a number, so that it has to be an address. -/
def endsInNumber (host : List Char) : Bool :=
  match (labels host).getLast? with
  | some (c :: rest) =>
    (c :: rest).all Char.isDigit ||
      (match c :: rest with
        | '0' :: x :: digits =>
          (x = 'x' || x = 'X') && digits.all fun d => (Text.hexValue? d).isSome
        | _ => false)
  | _ => false

/-- The address that one to four numbers stand for; the last fills the places that are left. -/
def looseIpv4? (host : List Char) : Option String := do
  let parts := labels host
  if 4 < parts.length then none
  let numbers ← parts.mapM looseNumber?
  let last ← numbers.getLast?
  let front := numbers.dropLast
  if front.all (· ≤ 255) && last < Nat.pow 256 (5 - numbers.length) then
    let value := front.foldl (fun n b => n * 256 + b) 0 * Nat.pow 256 (5 - numbers.length) + last
    return Net.ipv4Text (value / 16777216) (value / 65536 % 256) (value / 256 % 256) (value % 256)
  else none

/-- Whether an ASCII character may stand in the name of a host. -/
def isHostChar (c : Char) : Bool := c.isAlphanum || "-._~!$&'()*+,;=".toList.contains c

/-- A label in lower case and in ASCII; beyond ASCII it may hold word characters. -/
def hostLabel? (label : List Char) : Option (List Char) :=
  let ok := label.all fun c =>
    if c.toNat < 128 then isHostChar c else CharSet.mem c.toNat Text.Table.word
  if ok then some (Text.Punycode.encode (label.map Char.toLower)) else none

/-- The host that a text stands for. -/
def host? (s : List Char) : Option String :=
  match s with
  | '[' :: rest =>
    match Net.readIpv6 rest with
    | some (groups, [']']) => some ("[" ++ Net.ipv6Text groups ++ "]")
    | _ => none
  | _ => do
    let decoded ← Text.ofUtf8? (Text.percentDecode (Text.utf8 (String.ofList s)))
    let parts ← (Text.pieces (· = '.') decoded.toList).mapM hostLabel?
    let name := (parts.intersperse ['.']).flatten
    if name.isEmpty then none
    else if endsInNumber name then looseIpv4? name
    else some (String.ofList name)

/-! ## Paths -/

/-- Whether a byte stands for itself in a path. -/
def isPathByte (b : UInt8) : Bool :=
  0x20 < b && b < 0x7F && !([0x22, 0x23, 0x3C, 0x3E, 0x3F, 0x60, 0x7B, 0x7D] : Bytes).contains b

/-- Whether a byte stands for itself in a query. -/
def isQueryByte (b : UInt8) : Bool :=
  0x20 < b && b < 0x7F && !([0x22, 0x23, 0x27, 0x3C, 0x3E] : Bytes).contains b

/-- A text with percent signs for the bytes that do not stand for themselves. -/
def percentText (keeps : UInt8 → Bool) (s : List Char) : List Char :=
  (Text.utf8 (String.ofList s)).flatMap fun b =>
    if keeps b then [Char.ofNat b.toNat] else Text.percentByte b

/-- A step of a path with `%2e` as a dot. -/
def dotsOf : List Char → List Char
  | '%' :: '2' :: e :: rest =>
    if e = 'e' || e = 'E' then '.' :: dotsOf rest else '%' :: dotsOf ('2' :: e :: rest)
  | c :: rest => c :: dotsOf rest
  | [] => []

/-- Follows one step of a path. -/
def followStep (done : List (List Char)) (step : List Char) (last : Bool) : List (List Char) :=
  let dots := dotsOf step
  if dots = ['.', '.'] then if last then done.dropLast ++ [[]] else done.dropLast
  else if dots = ['.'] then if last then done ++ [[]] else done
  else done ++ [percentText isPathByte step]

/-- Follows the steps of a path. -/
def followPath : (done : List (List Char)) → List (List Char) → List (List Char)
  | done, [] => done
  | done, [step] => followStep done step true
  | done, step :: rest => followPath (followStep done step false) rest

/-- The path of a text that begins with a slash or is empty. -/
def pathText (s : List Char) : String :=
  let steps := Text.pieces (fun c => c = '/' || c = '\\') (s.drop 1)
  String.ofList ((followPath [] steps).flatMap fun step => '/' :: step)

/-! ## Whole addresses -/

namespace Url

/-- The port behind a host: nothing for none and for the usual one. -/
def readPort (usual : Nat) (s : List Char) : Option (Option Nat) :=
  match s with
  | [] => some none
  | ':' :: [] => some none
  | ':' :: digits =>
    match Text.Decimal.readDigits 65535 .tooLarge 0 digits with
    | .ok n => some (if n = usual then none else some n)
    | .error _ => none
  | _ => none

/-- How far the host reaches: up to a colon that is not in brackets. -/
def hostLength : (inBrackets : Bool) → List Char → Nat
  | _, [] => 0
  | inBrackets, c :: rest =>
    if c = ':' && !inBrackets then 0
    else hostLength (if c = '[' then true else if c = ']' then false else inBrackets) rest + 1

/-- A text without what is passed over in it. -/
def clean (s : List Char) : List Char :=
  let blank := fun (c : Char) => c.toNat ≤ 0x20
  let s := ((s.dropWhile blank).reverse.dropWhile blank).reverse
  s.filter fun c => c ≠ '\t' && c ≠ '\n' && c ≠ '\r'

/-- The address behind its scheme and colon. -/
def readRest (secure : Bool) (s : List Char) : Option Url := do
  let s := s.dropWhile fun c => c = '/' || c = '\\'
  let ends := fun (c : Char) => c = '/' || c = '\\' || c = '?' || c = '#'
  let authority := s.takeWhile fun c => !ends c
  let s := s.drop authority.length
  let place := ((authority.reverse.takeWhile (· ≠ '@')).reverse)
  let n := hostLength false place
  let host ← host? (place.take n)
  let port ← readPort (if secure then 443 else 80) (place.drop n)
  let path := s.takeWhile fun c => c ≠ '?' && c ≠ '#'
  let s := s.drop path.length
  let query := match s with
    | '?' :: rest => some (String.ofList (percentText isQueryByte (rest.takeWhile (· ≠ '#'))))
    | _ => none
  return { secure, host, port, path := pathText path, query }

/-- The address that a text with a scheme in front stands for. -/
def ofText? (s : String) : Option Url :=
  let cs := clean s.toList
  let http := "http:".toList
  let https := "https:".toList
  if http.isPrefixOf cs then readRest false (cs.drop http.length)
  else if https.isPrefixOf cs then readRest true (cs.drop https.length)
  else none

/-- The address with one more field in its query. -/
def withField (u : Url) (name value : String) : Url :=
  let field := Text.formEncode name ++ "=" ++ Text.formEncode value
  { u with query := some (match u.query with
      | some q => if q.isEmpty then field else q ++ "&" ++ field
      | none => field) }

/-- The path and the query. -/
def target (u : Url) : String := u.path ++ u.query.elim "" fun q => "?" ++ q

def text (u : Url) : String :=
  (if u.secure then "https://" else "http://") ++ u.host ++
    (u.port.elim "" fun p => ":" ++ Text.Decimal.ofNat p) ++ u.target

end Url

end Replica.Http
