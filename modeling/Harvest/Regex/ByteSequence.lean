import Harvest.Text.Charset
import Harvest.Text.Utf8

/-!
# Characters as byte sequences

A range of code points as a list of sequences of byte ranges: the encodings of its characters are
the byte strings that take each byte from its range in one of the sequences.  The sequences are in
the order of their characters.
-/

namespace Harvest.Regex

open Text (Charset)

/-- The bytes from one to another, both included. -/
structure ByteRange where
  first : Nat
  last : Nat
  deriving DecidableEq, Repr

/-- Byte ranges, one after the other. -/
abbrev ByteSequence := List ByteRange

namespace ByteSequence

/-- The longest ranges of characters whose encodings have one length, without D800 to DFFF. -/
def lengths : List (Nat × Nat) :=
  [(0, 0x7F), (0x80, 0x7FF), (0x800, 0xD7FF), (0xE000, 0xFFFF), (0x10000, Charset.last)]

/-- Cuts a range where it enters and where it leaves the whole multiples of `width` in it; what
lies between is cut by `middle`. -/
def cutAt (width : Nat) (middle : Nat → Nat → List (Nat × Nat)) (lo hi : Nat) :
    List (Nat × Nat) :=
  if lo / width = hi / width then [(lo, hi)]
  else
    let lo' := (lo + width - 1) / width * width
    let hi' := (hi + 1) / width * width
    (if lo < lo' then [(lo, lo' - 1)] else []) ++
      (if lo' < hi' then middle lo' (hi' - 1) else []) ++
      (if hi' ≤ hi then [(hi', hi)] else [])

/-- Cuts a range of characters with encodings of one length so that in each piece the bytes of the
encodings range independently. -/
def cut (lo hi : Nat) : List (Nat × Nat) :=
  if hi < 0x80 then [(lo, hi)]
  else cutAt 64 (cutAt 4096 (cutAt 262144 fun lo hi => [(lo, hi)])) lo hi

/-- The byte ranges between two encodings of one length. -/
def between (lo hi : Nat) : ByteSequence :=
  List.zipWith (fun a b => ⟨a.toNat, b.toNat⟩) (Utf8.encode lo) (Utf8.encode hi)

/-- The sequences of a range of code points. -/
def ofRange (lo hi : Nat) : List ByteSequence :=
  lengths.flatMap fun (least, greatest) =>
    let (lo, hi) := (max lo least, min hi greatest)
    if lo ≤ hi then (cut lo hi).map fun (lo, hi) => between lo hi else []

/-- The sequences of the characters of a set. -/
def ofSet (set : Charset) : List ByteSequence := set.ranges.flatMap fun (lo, hi) => ofRange lo hi

end ByteSequence

end Harvest.Regex
