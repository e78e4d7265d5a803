import Harvest.Unicode.Derived
import Harvest.Unicode.Script

/-!
# Segmentation

The classes of characters that tell where a text may be broken into graphemes, words and
sentences.  A character is in one class at most for each of the three.
-/

namespace Harvest.Unicode

open Text (Charset)

/-- The characters of some scripts. -/
def inScripts (names : List String) : Charset := .unions (names.filterMap script?)

/-! ## Graphemes -/

def zeroWidthJoiner : Charset := .singleton 0x200D

def graphemeExtenders : Charset := graphemeExtend.union (listed "emojimodifier")

def graphemeControls : Charset :=
  (Charset.unions [unionOf ["zl", "zp", "cc", "cf"], unassigned.inter defaultIgnorable]).diff
    (.unions [.ofTable ["A D 200C-200D"], listed "prependedconcatenationmark", graphemeExtenders])

/-- Marks that take room but begin a grapheme of their own. -/
def separateMarks : Charset := .ofTable
  ["102B 102C 1038 1062-1064 1067-106D 1083 1087-108C 108F 109A-109C 1A61 1A63 1A64 AA7B AA7D",
   "11720 11721"]

def spacingMarks : Charset :=
  ((unionOf ["mc"]).union (.ofTable ["E33 EB3"])).diff (graphemeExtenders.union separateMarks)

def graphemePrefixes : Charset := .ofTable
  ["600-605 6DD 70F 890-891 8E2 D4E 110BD 110CD 111C2-111C3 113D1 1193F 11941 11A3A",
   "11A84-11A89 11D46 11F02"]

/-- The Hangul syllables without a final consonant: one out of 28. -/
def openSyllables : Charset := ⟨(List.range 399).map fun i => (0xAC00 + 28 * i, 0xAC00 + 28 * i)⟩

def closedSyllables : Charset := (Charset.ofTable ["AC00-D7A3"]).diff openSyllables

/-- The characters of a class for breaking graphemes. -/
def graphemeBreak? (name : String) : Option Charset :=
  match name with
  | "cr" => some (.singleton 0x0D)
  | "lf" => some (.singleton 0x0A)
  | "control" | "cn" => some graphemeControls
  | "extend" | "ex" => some graphemeExtenders
  | "prepend" | "pp" => some graphemePrefixes
  | "spacingmark" | "sm" => some spacingMarks
  | "regionalindicator" | "ri" => some (listed "regionalindicator")
  | "l" => some (.ofTable ["1100-115F A960-A97C"])
  | "v" => some (.ofTable ["1160-11A7 D7B0-D7C6 16D63 16D67-16D6A"])
  | "t" => some (.ofTable ["11A8-11FF D7CB-D7FB"])
  | "lv" => some openSyllables
  | "lvt" => some closedSyllables
  | "zwj" => some zeroWidthJoiner
  | _ => none

/-! ## Words -/

def wordExtenders : Charset :=
  (Charset.unions [graphemeExtenders, unionOf ["mc"]]).diff zeroWidthJoiner

def katakana : Charset :=
  (inScripts ["katakana"]).union (.ofTable ["3031-3035 309B-309C 30A0 30FC FF70"])

def hebrewLetters : Charset := (inScripts ["hebrew"]).inter (unionOf ["lo"])

/-- Signs that count as letters of words. -/
def wordSigns : Charset := .ofTable
  ["2C2-2C5 2D2-2D7 2DE-2DF 2E5-2EB 2ED 2EF-2FF 55A-55C 55E 58A 5F3 70F A708-A716 A720-A721",
   "A789-A78A AB5B"]

/-- The scripts that do not put blanks between words. -/
def unspacedScripts : Charset :=
  inScripts ["thai", "lao", "myanmar", "khmer", "taile", "newtailue", "taitham", "ahom",
    "taiviet", "hiragana"]

def wordLetters : Charset :=
  (alphabetic.union wordSigns).diff
    (.unions [listed "ideographic", katakana, unspacedScripts, wordExtenders, hebrewLetters])

def wordNumbers : Charset :=
  .unions [unionOf ["nd"], .singleton 0x66B,
    (listed "prependedconcatenationmark").diff (.singleton 0x70F)]

def wordFormats : Charset :=
  (unionOf ["cf"]).diff
    (.unions [.ofTable ["70F 200B-200D"], wordExtenders, wordNumbers])

/-- The characters of a class for breaking words. -/
def wordBreak? (name : String) : Option Charset :=
  match name with
  | "cr" => some (.singleton 0x0D)
  | "lf" => some (.singleton 0x0A)
  | "newline" | "nl" => some (.ofTable ["B-C 85 2028-2029"])
  | "aletter" | "le" => some wordLetters
  | "hebrewletter" | "hl" => some hebrewLetters
  | "katakana" | "ka" => some katakana
  | "numeric" | "nu" => some wordNumbers
  | "extend" => some wordExtenders
  | "format" | "fo" => some wordFormats
  | "extendnumlet" | "ex" => some ((unionOf ["pc"]).union (.singleton 0x202F))
  | "midletter" | "ml" => some (.ofTable ["3A B7 387 55F 5F4 2027 FE13 FE55 FF1A"])
  | "midnum" | "mn" =>
      some (.ofTable ["2C 3B 37E 589 60C-60D 66C 7F8 2044 FE10 FE14 FE50 FE54 FF0C FF1B"])
  | "midnumlet" | "mb" => some (.ofTable ["2E 2018-2019 2024 FE52 FF07 FF0E"])
  | "singlequote" | "sq" => some (.singleton 0x27)
  | "doublequote" | "dq" => some (.singleton 0x22)
  | "regionalindicator" | "ri" => some (listed "regionalindicator")
  | "wsegspace" => some (.ofTable ["20 1680 2000-2006 2008-200A 205F 3000"])
  | "zwj" => some zeroWidthJoiner
  | _ => none

/-! ## Sentences -/

def sentenceExtenders : Charset := .unions [graphemeExtend, unionOf ["mc"], zeroWidthJoiner]

def sentenceNumbers : Charset := wordNumbers.union (.singleton 0x66C)

def sentenceFormats : Charset :=
  (unionOf ["cf"]).diff
    (.unions [.ofTable ["200C-200D"], sentenceExtenders, sentenceNumbers])

def sentenceLower : Charset :=
  lowercase.diff (graphemeExtend.union (.ofTable ["10D0-10FA 10FD-10FF"]))

def sentenceUpper : Charset :=
  (uppercase.union titlecase).diff (.ofTable ["1C90-1CBA 1CBD-1CBF"])

def sentenceLetters : Charset :=
  (alphabetic.union (.singleton 0x5F3)).diff
    (.unions [sentenceLower, sentenceUpper, sentenceExtenders])

/-- Full stops, which may also belong to an abbreviation or a number. -/
def fullStops : Charset := .ofTable ["2E 2024 FE52 FF0E"]

/-- Brackets and quotation marks. -/
def closers : Charset :=
  (unionOf ["ps", "pe", "pi", "pf"]).symmDiff
    (.ofTable ["22 27 275B-2760 2E00-2E01 2E06-2E08 2E0B 1F676-1F678"])

/-- The characters of a class for breaking sentences. -/
def sentenceBreak? (name : String) : Option Charset :=
  match name with
  | "cr" => some (.singleton 0x0D)
  | "lf" => some (.singleton 0x0A)
  | "sep" | "se" => some (.ofTable ["85 2028-2029"])
  | "sp" => some ((listed "whitespace").diff (.ofTable ["A D 85 2028-2029"]))
  | "extend" | "ex" => some sentenceExtenders
  | "format" | "fo" => some sentenceFormats
  | "lower" | "lo" => some sentenceLower
  | "upper" | "up" => some sentenceUpper
  | "oletter" | "le" => some sentenceLetters
  | "numeric" | "nu" => some sentenceNumbers
  | "aterm" | "at" => some fullStops
  | "sterm" | "st" => some ((listed "sentenceterminal").diff fullStops)
  | "close" | "cl" => some closers
  | "scontinue" | "sc" => some (.ofTable
      ["2C-2D 3A-3B 37E 55D 60C-60D 7F8 1802 1808 2013-2014 3001 FE10-FE11 FE13-FE14 FE31-FE32",
       "FE50-FE51 FE54-FE55 FE58 FE63 FF0C-FF0D FF1A-FF1B FF64"])
  | _ => none

end Harvest.Unicode
