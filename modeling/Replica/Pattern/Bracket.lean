/-
# Classes in brackets

`[a-z&&[^aeiou]]`: characters, ranges and classes side by side, one class in another, and the
operations `&&`, `--` and `~~`, which group to the left and bind weaker than standing side by
side.  The brackets that are still open stand on a stack.  A class also tells its height, the
number of parts that stand inside each other, which the whole pattern bounds.
-/

import Replica.Pattern.Reading

namespace Replica.Pattern

/-- What joins two classes. -/
inductive ClassOp where
  | both
  | without
  | either

/-- A class and its height. -/
structure Class where
  set : CharSet
  height : Nat

/-- What stands side by side so far: all of it together, the number of items and the greatest
of their heights. -/
structure Items where
  ranges : List (Nat × Nat) := []
  count : Nat := 0
  height : Nat := 0

namespace Items

def add (items : Items) (set : CharSet) (height : Nat) : Items :=
  ⟨set.ranges ++ items.ranges, items.count + 1, max items.height height⟩

def toClass (items : Items) : Class :=
  ⟨.ofRanges items.ranges, if items.count ≤ 1 then items.height else items.height + 1⟩

end Items

/-- A bracket that is not closed. -/
inductive Opened where
  /-- What stands in front of an inner bracket, and whether the inner class is a complement. -/
  | bracket (outer : Items) (negated : Bool)
  /-- The left side of an operation. -/
  | operation (op : ClassOp) (left : Class)

/-- The set with case variants, if case does not count, or its complement.  Without Unicode it
must not leave ASCII. -/
def Flags.close (f : Flags) (negated : Bool) (s : CharSet) : Option CharSet :=
  let s := if f.ignoreCase then s.withCase (!f.unicode) else s
  if negated then if f.unicode then some s.compl else none
  else some s

def ClassOp.apply (f : Flags) (op : ClassOp) (left right : Class) : Class :=
  let fold := fun s : CharSet => if f.ignoreCase then s.withCase (!f.unicode) else s
  let l := fold left.set
  let r := fold right.set
  let set := match op with
    | .both => l.inter r
    | .without => l.diff r
    | .either => l.symmDiff r
  ⟨set, max left.height right.height + 1⟩

/-- The items up to here as the right side of an operation that waits, if one does. -/
def settle (f : Flags) (right : Class) : List Opened → Class × List Opened
  | .operation op left :: stack => (op.apply f left right, stack)
  | stack => (right, stack)

/-- A name between colons, as in `[:alpha:]` or `[:^alpha:]`, behind its bracket. -/
def readAsciiClass (f : Flags) (s : Rest) : Option (Option CharSet × Rest) := do
  match s with
  | ':' :: rest =>
    let (negated, rest) := match rest with
      | '^' :: more => (true, more)
      | _ => (false, rest)
    let name := rest.takeWhile (· ≠ ':')
    match rest.drop name.length with
    | ':' :: ']' :: more =>
      let set ← CharSet.ofAsciiName? (.ofList name)
      return (f.close negated set, more)
    | _ => none
  | _ => none

/-- The hyphens in front, which stand for themselves. -/
def takeHyphens (f : Flags) : Nat → Items → Rest → Items × Rest
  | fuel + 1, items, '-' :: rest =>
    takeHyphens f fuel (items.add (.singleton '-') 0) (f.skip rest)
  | _, items, s => (items, s)

/-- What stands behind an opening bracket: whether the class is a complement, and the hyphens
or the closing bracket that stand for themselves because they come first. -/
def openBracket (f : Flags) (s : Rest) : Bool × Items × Rest :=
  let s := f.skip s
  let (negated, s) := match s with
    | '^' :: rest => (true, f.skip rest)
    | _ => (false, s)
  let (items, s) := takeHyphens f s.length {} s
  match s with
  | ']' :: rest =>
    if items.count = 0 then (negated, items.add (.singleton ']') 0, f.skip rest)
    else (negated, items, s)
  | _ => (negated, items, s)

/-- A character or an escape inside brackets. -/
def readItem (f : Flags) : Rest → Option (Atom × Rest)
  | [] => none
  | c :: rest => if c = '\\' then readEscape f rest else some (.literal c false, rest)

/-- Without Unicode a class holds ASCII and no other character. -/
def classChar? (f : Flags) (c : Char) : Option Char :=
  if f.unicode || c.toNat < 0x80 then some c else none

/-- A character, a class or a range. -/
def readRange (f : Flags) (s : Rest) : Option (CharSet × Rest) := do
  let (first, rest) ← readItem f s
  let rest := f.skip rest
  match rest with
  | [] => none
  | c :: behind =>
    if c ≠ '-' || f.second rest = some ']' || f.second rest = some '-' then
      match first with
      | .literal c _ =>
        let c ← classChar? f c
        return (.singleton c, rest)
      | .set s => return (s, rest)
      | .look _ => none
    else
      let (last, rest) ← readItem f (f.skip behind)
      match first, last with
      | .literal low _, .literal high _ =>
        let low ← classChar? f low
        let high ← classChar? f high
        if low ≤ high then return (⟨[(low.toNat, high.toNat)]⟩, rest) else none
      | _, _ => none

/-- The operation that two equal signs stand for. -/
def classOp? (a b : Char) : Option ClassOp :=
  if a ≠ b then none
  else if a = '&' then some .both
  else if a = '-' then some .without
  else if a = '~' then some .either
  else none

/-- Reads on inside brackets: `items` stand in the innermost one that is open, which is a
complement if `negated`.  Each step takes a character or more. -/
def readClass (f : Flags) :
    (fuel : Nat) → (stack : List Opened) → (items : Items) → (negated : Bool) → Rest →
      Option (Class × Rest)
  | 0, _, _, _, _ => none
  | fuel + 1, stack, items, negated, s =>
    match f.skip s with
    | [] => none
    | '[' :: rest =>
      match readAsciiClass f rest with
      | some (some set, rest) => readClass f fuel stack (items.add set 0) negated rest
      | some (none, _) => none
      | none =>
        let (inner, first, rest) := openBracket f rest
        readClass f fuel (.bracket items negated :: stack) first inner rest
    | ']' :: rest =>
      let (whole, stack) := settle f items.toClass stack
      match f.close negated whole.set with
      | none => none
      | some set =>
        match stack with
        | .bracket outer outerNegated :: stack =>
          readClass f fuel stack (outer.add set (whole.height + 1)) outerNegated rest
        | _ => some (⟨set, whole.height + 1⟩, rest)
    | a :: rest =>
      match rest.head?.bind (classOp? a) with
      | some op =>
        let (left, stack) := settle f items.toClass stack
        readClass f fuel (.operation op left :: stack) {} negated (rest.drop 1)
      | none =>
        match readRange f (a :: rest) with
        | none => none
        | some (set, rest) => readClass f fuel stack (items.add set 0) negated rest

/-- The class behind an opening bracket. -/
def readBracket (f : Flags) (s : Rest) : Option (Class × Rest) :=
  let (negated, first, rest) := openBracket f s
  readClass f (s.length + 1) [] first negated rest

end Replica.Pattern
