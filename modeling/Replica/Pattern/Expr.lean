/-
# Patterns, once read

What a pattern asks of a text, over sets of characters.  Groups, greed and names are gone: they
change what is captured, never whether a text matches.
-/

import Replica.Text.CharSet
import Replica.Text.Table.Word

namespace Replica.Pattern

/-- A condition on a place between two characters. -/
inductive Look where
  | textStart
  | textEnd
  | lineStart
  | lineEnd
  /-- As `lineStart`, where lines also end in a carriage return, with or without a line feed. -/
  | anyLineStart
  | anyLineEnd
  /-- One side is a word character and the other is not. -/
  | wordBoundary (ascii : Bool)
  | noWordBoundary (ascii : Bool)
  | wordStart (ascii : Bool)
  | wordEnd (ascii : Bool)
  /-- No word character in front. -/
  | wordStartHalf (ascii : Bool)
  /-- No word character behind. -/
  | wordEndHalf (ascii : Bool)
deriving DecidableEq, Repr

/-- A pattern, once read. -/
inductive Expr where
  | empty
  | chars (set : CharSet)
  | look (l : Look)
  | seq (first second : Expr)
  | alt (first second : Expr)
  /-- From `least` to `most` times, without end if there is no `most`. -/
  | rep (e : Expr) (least : Nat) (most : Option Nat)
deriving DecidableEq, Repr

/-! ## Places -/

/-- A place in a text: the characters on its two sides. -/
structure Place where
  before : Option Char
  after : Option Char

def isWord (ascii : Bool) (c : Char) : Bool :=
  if c.toNat < 0x80 then c.isAlphanum || c = '_'
  else !ascii && CharSet.mem c.toNat Text.Table.word

/-- Whether a condition holds at a place. -/
def Look.holds (p : Place) : Look → Bool
  | .textStart => p.before.isNone
  | .textEnd => p.after.isNone
  | .lineStart => p.before.isNone || p.before = some '\n'
  | .lineEnd => p.after.isNone || p.after = some '\n'
  | .anyLineStart =>
    p.before.isNone || p.before = some '\n' || (p.before = some '\r' && p.after ≠ some '\n')
  | .anyLineEnd =>
    p.after.isNone || p.after = some '\r' || (p.after = some '\n' && p.before ≠ some '\r')
  | .wordBoundary a => p.before.any (isWord a) ≠ p.after.any (isWord a)
  | .noWordBoundary a => p.before.any (isWord a) = p.after.any (isWord a)
  | .wordStart a => !p.before.any (isWord a) && p.after.any (isWord a)
  | .wordEnd a => p.before.any (isWord a) && !p.after.any (isWord a)
  | .wordStartHalf a => !p.before.any (isWord a)
  | .wordEndHalf a => !p.after.any (isWord a)

/-! ## Matching by derivatives

`rest p c e` are the patterns that the text behind `c` has to match when `e` is matched from the
place `p` on and `c` comes next.  A repetition of something that matches nothing at `p` may
leave out copies there, so its lower bound falls away. -/

/-- Whether the pattern matches the empty stretch at a place. -/
def Expr.matchesEmpty (p : Place) : Expr → Bool
  | .empty => true
  | .chars _ => false
  | .look l => l.holds p
  | .seq e f => e.matchesEmpty p && f.matchesEmpty p
  | .alt e f => e.matchesEmpty p || f.matchesEmpty p
  | .rep e least _ => least = 0 || e.matchesEmpty p

/-- One pattern after another. -/
def Expr.followedBy (e f : Expr) : Expr :=
  match e with
  | .empty => f
  | _ => match f with
    | .empty => e
    | _ => .seq e f

/-- What is left to match behind the character. -/
def Expr.rest (p : Place) (c : Char) : Expr → List Expr
  | .empty => []
  | .chars set => if set.contains c then [.empty] else []
  | .look _ => []
  | .seq e f =>
    let through := (e.rest p c).map (·.followedBy f)
    if e.matchesEmpty p then through ++ f.rest p c else through
  | .alt e f => e.rest p c ++ f.rest p c
  | .rep e least most =>
    if most = some 0 then []
    else
      let least' := if e.matchesEmpty p then 0 else least - 1
      let more := if most = some 1 then .empty else .rep e least' (most.map (· - 1))
      (e.rest p c).map (·.followedBy more)

/-- Whether one of `live` matches a beginning of the text, or `e` a stretch of it. -/
def Expr.searchFrom (e : Expr) (before : Option Char) (live : List Expr) : List Char → Bool
  | [] => (e :: live).any (·.matchesEmpty ⟨before, none⟩)
  | c :: text =>
    let p : Place := ⟨before, some c⟩
    (e :: live).any (·.matchesEmpty p) ||
      e.searchFrom (some c) ((e :: live).flatMap (·.rest p c)).eraseDups text

/-- Whether the pattern matches a stretch of the text. -/
def Expr.foundIn (e : Expr) (text : String) : Bool := e.searchFrom none [] text.toList

end Replica.Pattern
