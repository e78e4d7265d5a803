/-!
# Blank characters

The characters of the Unicode property White_Space, and what is done with them throughout the
library: cutting blanks off both ends of a text, and splitting a text into words.  Most of the
work is on lists of characters; the string versions only convert.
-/

namespace Harvest.Text

/-- The characters of the property White_Space. -/
def isBlank (c : Char) : Bool :=
  let n := c.toNat
  (0x09 ≤ n && n ≤ 0x0D) || n == 0x20 || n == 0x85 || n == 0xA0 || n == 0x1680 ||
    (0x2000 ≤ n && n ≤ 0x200A) || n == 0x2028 || n == 0x2029 || n == 0x202F || n == 0x205F ||
    n == 0x3000

/-- The blank characters below 128 that separate tokens in markup and in expressions: tab, line
feed, form feed, carriage return and space. -/
def isAsciiBlank (c : Char) : Bool :=
  c == ' ' || c == '\t' || c == '\n' || c == '\r' || c == '\x0c'

/-- The characters up to the last one that `p` refuses. -/
def dropEndWhile (p : Char → Bool) : List Char → List Char
  | [] => []
  | c :: cs =>
      match dropEndWhile p cs with
      | [] => if p c then [] else [c]
      | d :: ds => c :: d :: ds

/-- The characters between the first and the last that are not blank. -/
def trimChars (cs : List Char) : List Char :=
  dropEndWhile isBlank (cs.dropWhile isBlank)

/-- The text without the blanks at its two ends. -/
def trim (s : String) : String :=
  String.ofList (trimChars s.toList)

/-- The runs of characters that `p` refuses, in order; `run` holds the current one backwards. -/
def splitRuns (p : Char → Bool) (run : List Char) : List Char → List (List Char)
  | [] => if run.isEmpty then [] else [run.reverse]
  | c :: cs =>
      if p c then
        if run.isEmpty then splitRuns p [] cs else run.reverse :: splitRuns p [] cs
      else splitRuns p (c :: run) cs

/-- The words of a text: its longest runs without a blank. -/
def words (s : String) : List String :=
  (splitRuns isBlank [] s.toList).map String.ofList

/-- The pieces between occurrences of `sep`; `piece` holds the current one backwards. -/
def splitChars (sep : Char) (piece : List Char) : List Char → List (List Char)
  | [] => [piece.reverse]
  | c :: cs =>
      if c = sep then piece.reverse :: splitChars sep [] cs else splitChars sep (c :: piece) cs

/-- The pieces of a text between occurrences of `sep`: one more piece than occurrences. -/
def splitAt (sep : Char) (s : String) : List String :=
  (splitChars sep [] s.toList).map String.ofList

/-- The text with the letters `A` to `Z` replaced by `a` to `z`. -/
def lowerAscii (s : String) : String :=
  s.map Char.toLower

end Harvest.Text
