/-
# Reading a pattern

Alternatives of parts side by side, each possibly repeated.  The groups that are still open
stand on a stack; flags that a group sets end with it.  **At most 250 parts stand inside each
other**: a group, a repetition, parts side by side, alternatives, and the classes in brackets.
-/

import Replica.Pattern.Bracket
import Replica.Pattern.Size
import Replica.Text.Table.Letter
import Replica.Text.Table.Number

namespace Replica.Pattern

/-- The bound on parts inside each other. -/
def heightLimit : Nat := 250

/-- A part of a pattern and its height. -/
structure Part where
  /-- Nothing for a part that only sets flags, which cannot be repeated. -/
  expr : Option Expr
  height : Nat

/-- A group that is still open; the whole pattern is the outermost. -/
structure Level where
  /-- The alternatives in front, the last one first. -/
  alternatives : List Part := []
  /-- What stands side by side, the last one first. -/
  parts : List Part := []
  /-- The flags around the group. -/
  around : Flags := {}

namespace Level

def add (l : Level) (p : Part) : Level := { l with parts := p :: l.parts }

def addExpr (l : Level) (e : Expr) (height : Nat) : Level := l.add ⟨some e, height⟩

/-- What stands side by side, as one part. -/
def row (l : Level) : Part :=
  match l.parts with
  | [] => ⟨some .empty, 0⟩
  | [p] => p
  | ps => ⟨some ((ps.filterMap (·.expr)).foldl (fun tail e => e.followedBy tail) .empty),
      (ps.map (·.height)).foldl max 0 + 1⟩

/-- The level with a new alternative begun. -/
def nextAlternative (l : Level) : Level :=
  { l with alternatives := l.row :: l.alternatives, parts := [] }

/-- All alternatives as one part. -/
def whole (l : Level) : Part :=
  let last := l.row
  match l.alternatives with
  | [] => last
  | ps =>
    ⟨some (ps.foldl (fun tail p => .alt (p.expr.getD .empty) tail) (last.expr.getD .empty)),
      (ps.map (·.height)).foldl max last.height + 1⟩

end Level

/-- How far the reading of a pattern has come. -/
structure Reading where
  flags : Flags := {}
  /-- The names of groups so far. -/
  names : List String := []
  level : Level := {}
  stack : List Level := []
  rest : Rest

/-- Repeats the last part. -/
def Level.repeatLast (l : Level) (least : Nat) (most : Option Nat) : Option Level :=
  match l.parts with
  | ⟨some e, height⟩ :: parts =>
    some { l with parts := ⟨some (.rep e least most), height + 1⟩ :: parts }
  | _ => none

/-- Without the question mark that makes a repetition prefer few. -/
def dropLazy : Rest → Rest
  | '?' :: rest => rest
  | s => s

/-- The bounds of a counted repetition, behind its brace. -/
def readBounds (f : Flags) (s : Rest) : Option (Nat × Option Nat × Rest) := do
  let (least, rest) ← readCount f (f.skip s)
  let (most, rest) ← match rest with
    | ',' :: rest =>
      match f.skip rest with
      | '\x7d' :: _ => some (none, f.skip rest)
      | rest => do
        let (most, rest) ← readCount f rest
        some (some most, rest)
    | _ => some (some least, rest)
  match rest with
  | '\x7d' :: rest =>
    if most.all (least ≤ ·) then some (least, most, dropLazy (f.skip rest)) else none
  | _ => none

/-- Whether a character may stand in the name of a group. -/
def isNameChar (first : Bool) (c : Char) : Bool :=
  c = '_' || CharSet.mem c.toNat Text.Table.letter ||
    (!first && (c = '.' || c = '[' || c = ']' || CharSet.mem c.toNat Text.Table.number))

/-- The name of a group, up to the angle bracket. -/
def readName (s : Rest) : Option (String × Rest) :=
  let name := s.takeWhile (· ≠ '>')
  match name, s.drop name.length with
  | c :: more, _ :: rest =>
    if isNameChar true c && more.all (isNameChar false) then some (.ofList name, rest) else none
  | _, _ => none

namespace Reading

/-- A new group: what follows belongs to it. -/
def enter (r : Reading) (flags : Flags) (rest : Rest) : Reading :=
  { r with flags, rest, level := { around := r.flags }, stack := r.level :: r.stack }

/-- What stands behind an opening bracket: a name, flags, or the group itself. -/
def readGroup (r : Reading) (s : Rest) : Option Reading :=
  let s := r.flags.skip s
  match s with
  | '?' :: '=' :: _ => none
  | '?' :: '!' :: _ => none
  | '?' :: '<' :: '=' :: _ => none
  | '?' :: '<' :: '!' :: _ => none
  | '?' :: 'P' :: '<' :: rest => named rest
  | '?' :: '<' :: rest => named rest
  | '?' :: rest =>
    match readFlags r.flags [] rest with
    | none => none
    | some (flags, letters, stop, rest) =>
      if stop = ':' then some (r.enter flags rest)
      else if letters.isEmpty then none
      else some { r with flags, rest, level := r.level.add ⟨none, 0⟩ }
  | _ => some (r.enter r.flags s)
where
  named (rest : Rest) : Option Reading :=
    match readName rest with
    | none => none
    | some (name, rest) =>
      if r.names.contains name then none
      else some { r.enter r.flags rest with names := name :: r.names }

/-- Closes the innermost group. -/
def leave (r : Reading) (rest : Rest) : Option Reading :=
  match r.stack with
  | [] => none
  | outer :: stack =>
    let group := r.level.whole
    some { r with
      flags := r.level.around, rest, stack
      level := outer.addExpr (group.expr.getD .empty) (group.height + 1) }

/-- The dot. -/
def dot (f : Flags) : Option CharSet :=
  if !f.unicode then none
  else if f.dotAll then some .all
  else if f.anyLine then some (CharSet.compl ⟨[(0x0A, 0x0A), (0x0D, 0x0D)]⟩)
  else some (CharSet.compl ⟨[(0x0A, 0x0A)]⟩)

/-- A caret or a dollar sign. -/
def lineLook (f : Flags) (start : Bool) : Look :=
  if !f.multiLine then if start then .textStart else .textEnd
  else if f.anyLine then if start then .anyLineStart else .anyLineEnd
  else if start then .lineStart else .lineEnd

/-- The pattern of an atom. -/
def atomExpr (f : Flags) : Atom → Option Expr
  | .literal c byte => (literalSet f c byte).map .chars
  | .set s => some (.chars s)
  | .look l => some (.look l)

/-- Takes one part, `c` being the character in front of `rest`. -/
def step (r : Reading) (c : Char) (rest : Rest) : Option Reading :=
  let f := r.flags
  let onto := fun (e : Expr) (height : Nat) (rest : Rest) =>
    some { r with level := r.level.addExpr e height, rest }
  let repeated := fun (least : Nat) (most : Option Nat) (rest : Rest) =>
    (r.level.repeatLast least most).map fun level => { r with level, rest }
  if c = '(' then r.readGroup rest
  else if c = ')' then r.leave rest
  else if c = '|' then some { r with level := r.level.nextAlternative, rest }
  else if c = '[' then
    match readBracket f rest with
    | some (k, rest) => onto (.chars k.set) k.height rest
    | none => none
  else if c = '?' then repeated 0 (some 1) (dropLazy rest)
  else if c = '*' then repeated 0 none (dropLazy rest)
  else if c = '+' then repeated 1 none (dropLazy rest)
  else if c = '\x7b' then
    match readBounds f rest with
    | some (least, most, rest) => repeated least most rest
    | none => none
  else if c = '\\' then
    match readEscape f rest with
    | none => none
    | some (atom, rest) => (atomExpr f atom).bind fun e => onto e 0 rest
  else if c = '.' then (dot f).bind fun s => onto (.chars s) 0 rest
  else if c = '^' then onto (.look (lineLook f true)) 0 rest
  else if c = '$' then onto (.look (lineLook f false)) 0 rest
  else (literalSet f c false).bind fun s => onto (.chars s) 0 rest

/-- The pattern that is left when all is read, if every group is closed. -/
def done (r : Reading) : Option Expr :=
  let whole := r.level.whole
  if r.stack.isEmpty && whole.height ≤ heightLimit then some (whole.expr.getD .empty) else none

/-- Reads to the end; each step takes a character or more. -/
def run : (fuel : Nat) → Reading → Option Expr
  | 0, r => r.done
  | fuel + 1, r =>
    match r.flags.skip r.rest with
    | [] => r.done
    | c :: rest => (r.step c rest).bind (run fuel)

end Reading

/-- The pattern that a text spells, if it spells one that is not too large. -/
def ofText? (s : String) : Option Expr :=
  (Reading.run (s.length + 1) { rest := s.toList }).filter fun e => e.size ≤ sizeLimit

end Replica.Pattern
