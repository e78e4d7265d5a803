import Harvest.Regex.Expr
import Harvest.Text.Utf8
import Harvest.Unicode.Property

/-!
# Haystacks

The bytes that a regular expression is matched against, with the character that begins at each of
them.  Bytes that are no well-formed text hold no characters.
-/

namespace Harvest.Regex

open Text (Charset)

/-- Bytes, and for each the code point and width of the character that begins there, if one
does. -/
structure Haystack where
  bytes : Array UInt8
  chars : Array (Option (Nat × Nat))

namespace Haystack

/-- The character at the front of some bytes. -/
def front : Bytes → Option (Nat × Nat)
  | [] => none
  | b :: bs =>
      match Utf8.head b bs with
      | .char c width => some (c.toNat, width)
      | .ill _ => none

/-- The characters that begin at each of the bytes. -/
def fronts : Bytes → List (Option (Nat × Nat))
  | [] => []
  | b :: bs => front (b :: bs) :: fronts bs

def ofBytes (bytes : Bytes) : Haystack := ⟨bytes.toArray, (fronts bytes).toArray⟩

def size (h : Haystack) : Nat := h.bytes.size

/-- The character that begins at a place. -/
def charAt (h : Haystack) (at_ : Nat) : Option (Nat × Nat) := (h.chars[at_]?).join

/-- The byte at a place. -/
def byteAt (h : Haystack) (at_ : Nat) : Option Nat := h.bytes[at_]?.map UInt8.toNat

/-- The byte in front of a place. -/
def byteBefore (h : Haystack) (at_ : Nat) : Option Nat := if at_ = 0 then none else h.byteAt (at_ - 1)

/-- The nearest byte from `at_` down that continues no character, at most `count` steps away. -/
def leadFrom (h : Haystack) (at_ : Nat) : Nat → Nat
  | 0 => at_
  | count + 1 =>
      match h.bytes[at_]? with
      | some b => if Utf8.isTail b && 0 < at_ then leadFrom h (at_ - 1) count else at_
      | none => at_

/-- The character that stands in front of a place, which the bytes from its first on begin
with. -/
def charBefore (h : Haystack) (at_ : Nat) : Option (Nat × Nat) :=
  if at_ = 0 then none
  else
    let start := h.leadFrom (at_ - 1) 3
    match h.charAt start with
    | some (n, width) => if start + width ≤ at_ then some (n, width) else none
    | none => none

/-- What a word look knows of one side of a place: whether a word character stands there, and
whether that side is ill-formed or at the end of the text. -/
structure Side where
  isWord : Bool
  isUnknown : Bool

/-- The side in front of a place (`before`) or behind it. -/
def side (h : Haystack) (unicode before : Bool) (at_ : Nat) : Side :=
  if unicode then
    let edge := if before then at_ = 0 else h.size ≤ at_
    match if before then h.charBefore at_ else h.charAt at_ with
    | some (n, _) => ⟨Unicode.wordChars.contains n, false⟩
    | none => ⟨false, !edge⟩
  else
    let isWord (n : Nat) : Bool :=
      (48 ≤ n && n ≤ 57) || (65 ≤ n && n ≤ 90) || n = 95 || (97 ≤ n && n ≤ 122)
    ⟨((if before then h.byteBefore at_ else h.byteAt at_).map isWord).getD false, false⟩

/-- Whether a condition on words holds at a place.  One that denies a word character holds only
beside well-formed text. -/
def holdsEdge (h : Haystack) (unicode : Bool) (edge : Edge) (at_ : Nat) : Bool :=
  let before := h.side unicode true at_
  let after := h.side unicode false at_
  match edge with
  | .boundary => before.isWord != after.isWord
  | .noBoundary => !before.isUnknown && !after.isUnknown && before.isWord == after.isWord
  | .start => !before.isWord && after.isWord
  | .stop => before.isWord && !after.isWord
  | .startHalf => !before.isUnknown && !before.isWord
  | .stopHalf => !after.isUnknown && !after.isWord

/-- Whether a condition holds at a place. -/
def holds (h : Haystack) (look : Look) (at_ : Nat) : Bool :=
  let before := h.byteBefore at_
  let after := h.byteAt at_
  match look with
  | .textStart => at_ = 0
  | .textEnd => at_ = h.size
  | .lineStart crlf =>
      at_ = 0 || before = some 10 || (crlf && before = some 13 && after ≠ some 10)
  | .lineEnd crlf =>
      at_ = h.size || (if crlf then after = some 13 || (after = some 10 && before ≠ some 13)
        else after = some 10)
  | .word unicode edge => h.holdsEdge unicode edge at_

end Haystack

end Harvest.Regex
