import Harvest.Text.Charset
import Harvest.Text.Utf8

/-!
# Regular expressions

What a regular expression matches, after its flags have been applied: every part says for itself
whether it reads characters or bytes, and in which case.  Parts that match without taking input are
looks at the place between two bytes.
-/

namespace Harvest

namespace Regex

open Text (Charset)

/-- The sides of a place that a word look asks about. -/
inductive Edge where
  /-- A word begins or ends here. -/
  | boundary
  | noBoundary
  | start
  | stop
  /-- No word character stands before. -/
  | startHalf
  /-- No word character stands behind. -/
  | stopHalf
  deriving DecidableEq, Repr

/-- A condition on a place between two bytes. -/
inductive Look where
  | textStart
  | textEnd
  /-- The start of a line; with `crlf`, lines end with carriage return, line feed or both. -/
  | lineStart (crlf : Bool)
  | lineEnd (crlf : Bool)
  /-- A condition on words, in Unicode or ASCII. -/
  | word (unicode : Bool) (edge : Edge)
  deriving DecidableEq, Repr

/-- A regular expression. -/
inductive Expr where
  | empty
  /-- Some bytes, one after the other. -/
  | literal (bytes : Bytes)
  /-- One character of a set. -/
  | char (set : Charset)
  /-- One byte of a set. -/
  | byte (set : Charset)
  | look (look : Look)
  /-- A group that is captured under a number from 1 up. -/
  | group (index : Nat) (body : Expr)
  | then (first second : Expr)
  | either (first second : Expr)
  | repeat (body : Expr) (min : Nat) (max : Option Nat) (greedy : Bool)
  deriving DecidableEq, Repr

namespace Expr

/-- An expression without a match. -/
def nothing : Expr := .byte .empty

/-- Whether there is a match and every match is empty. -/
def isWidthless : Expr → Bool
  | empty => true
  | literal bytes => bytes.isEmpty
  | char _ => false
  | byte _ => false
  | look _ => true
  | group _ body => body.isWidthless
  | .then a b => a.isWidthless && b.isWidthless
  | either a b => a.isWidthless && b.isWidthless
  | .repeat body _ _ _ => body.isWidthless

/-- The number of characters or bytes that a match takes at least; nothing if one of the
alternatives has no match. -/
def minWidth? : Expr → Option Nat
  | empty => some 0
  | literal bytes => some bytes.length
  | char set => if set.isEmpty then none else some 1
  | byte set => if set.isEmpty then none else some 1
  | look _ => some 0
  | group _ body => body.minWidth?
  | .then a b => do return (← a.minWidth?) + (← b.minWidth?)
  | either a b => do return Nat.min (← a.minWidth?) (← b.minWidth?)
  | .repeat body min _ _ => body.minWidth?.map (· * min)

/-- Whether there is a match and no match is empty. -/
def takesInput (e : Expr) : Bool := e.minWidth?.any (0 < ·)

/-- Whether the looks at the front let a match begin at the start of the text only. -/
def isStart : Expr → Bool
  | look .textStart => true
  | group _ body => body.isStart
  | .then a b => a.isStart || (a.isWidthless && b.isStart)
  | either a b => a.isStart && b.isStart
  | .repeat body min _ _ => 0 < min && body.isStart
  | _ => false

/-- Whether the looks at the back let a match stop at the end of the text only. -/
def isStop : Expr → Bool
  | look .textEnd => true
  | group _ body => body.isStop
  | .then a b => b.isStop || (b.isWidthless && a.isStop)
  | either a b => a.isStop && b.isStop
  | .repeat body min _ _ => 0 < min && body.isStop
  | _ => false

/-- The greatest number of a group, 0 without groups. -/
def groupCount : Expr → Nat
  | group index body => Nat.max index body.groupCount
  | .then a b => Nat.max a.groupCount b.groupCount
  | either a b => Nat.max a.groupCount b.groupCount
  | .repeat body _ _ _ => body.groupCount
  | _ => 0

end Expr

end Regex

end Harvest
