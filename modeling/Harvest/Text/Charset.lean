/-!
# Sets of code points

A set of numbers, as code points or bytes, held as ranges that are sorted, do not touch and do not
overlap.  Tables of Unicode properties are written as text, a range as two hexadecimal numbers
with a hyphen between them and a single member as one number, with a blank between ranges, in rows.
-/

namespace Harvest.Text

/-- The members of the ranges, both ends included. -/
structure Charset where
  ranges : List (Nat × Nat)
  deriving Repr, DecidableEq

namespace Charset

/-- The greatest code point. -/
def last : Nat := 0x10FFFF

/-- Membership in sorted ranges. -/
def mem (n : Nat) : List (Nat × Nat) → Bool
  | [] => false
  | (lo, hi) :: rest => if n < lo then false else n ≤ hi || mem n rest

def contains (set : Charset) (n : Nat) : Bool := mem n set.ranges

def empty : Charset := ⟨[]⟩

def isEmpty (set : Charset) : Bool := set.ranges.isEmpty

/-- A range with all that follow it, sorted by their lower ends; those that touch or overlap it
are joined to it. -/
def joinTo (lo hi : Nat) : List (Nat × Nat) → List (Nat × Nat)
  | [] => [(lo, hi)]
  | (lo', hi') :: rest =>
      if lo' ≤ hi + 1 then joinTo lo (max hi hi') rest else (lo, hi) :: joinTo lo' hi' rest

/-- Joins ranges, sorted by their lower ends, that touch or overlap. -/
def join : List (Nat × Nat) → List (Nat × Nat)
  | [] => []
  | (lo, hi) :: rest => joinTo lo hi rest

/-- The set of the members of some ranges in any order. -/
def ofRanges (ranges : List (Nat × Nat)) : Charset :=
  ⟨join ((ranges.filter fun (lo, hi) => lo ≤ hi).mergeSort fun a b => a.1 ≤ b.1)⟩

/-- Whether all members are below 128. -/
def isAscii (set : Charset) : Bool := set.ranges.all fun r => r.2 < 0x80

/-- The members that are code points of characters: all but D800 to DFFF. -/
def scalars (set : Charset) : Charset :=
  ⟨set.ranges.flatMap fun (lo, hi) =>
    [(lo, min hi 0xD7FF), (max lo 0xE000, hi)].filter fun r => r.1 ≤ r.2⟩

def singleton (n : Nat) : Charset := ⟨[(n, n)]⟩

def union (a b : Charset) : Charset := ofRanges (a.ranges ++ b.ranges)

/-- The members of any of some sets. -/
def unions (sets : List Charset) : Charset := ofRanges (sets.flatMap Charset.ranges)

/-- The gaps between sorted ranges from `next` up to `top`. -/
def gaps (next top : Nat) : List (Nat × Nat) → List (Nat × Nat)
  | [] => if next ≤ top then [(next, top)] else []
  | (lo, hi) :: rest =>
      if next < lo then (next, lo - 1) :: gaps (hi + 1) top rest else gaps (hi + 1) top rest

/-- The numbers up to `top` that are not members. -/
def complement (top : Nat) (set : Charset) : Charset := ⟨gaps 0 top set.ranges⟩

/-- The common members, through the complements up to the last code point. -/
def inter (a b : Charset) : Charset :=
  (union (a.complement last) (b.complement last)).complement last

/-- The members of `a` that are not in `b`. -/
def diff (a b : Charset) : Charset := inter a (b.complement last)

/-- The members of exactly one of the two sets. -/
def symmDiff (a b : Charset) : Charset := diff (union a b) (inter a b)

/-- The value of a hexadecimal digit of a table. -/
def tableDigit (c : Char) : Nat :=
  if c ≤ '9' then c.toNat - 48 else c.toNat - 55

/-- Reads the ranges of a table; `lo` is the lower end of a range half read, and `n` the number
being read. -/
def readTable (lo : Option Nat) (n : Nat) : List Char → List (Nat × Nat)
  | [] => [(lo.getD n, n)]
  | ' ' :: cs => (lo.getD n, n) :: readTable none 0 cs
  | '-' :: cs => readTable (some n) 0 cs
  | c :: cs => readTable lo (n * 16 + tableDigit c) cs

/-- The set that the rows of a table write, its ranges in increasing order. -/
def ofTable (rows : List String) : Charset :=
  ⟨join (rows.flatMap fun row => readTable none 0 row.toList)⟩

end Charset

end Harvest.Text
