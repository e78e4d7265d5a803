import Harvest.Json.Basic

/-!
# Extracted data

What a page yields: numbers, texts, lists and mappings.  Absence is not a datum; a mapping lacks
the key instead.  Two encoders lead to JSON text, one through JSON values and one directly.
-/

namespace Harvest

/-- A piece of extracted data.  The entries of a mapping are sorted by key, without repetition. -/
inductive Datum where
  | int (n : Int)
  | float (x : Float)
  | text (s : String)
  | list (items : List Datum)
  | map (entries : List (String × Datum))
  deriving Repr, Inhabited

namespace Datum

mutual

/-- Equality of data, in which numbers compare as numbers: the two zeros are equal, and what is not
a number differs from everything. -/
def equal : Datum → Datum → Bool
  | int m, int n => m == n
  | float x, float y => x == y
  | text s, text t => s == t
  | list ds, list es => equalItems ds es
  | map ds, map es => equalEntries ds es
  | _, _ => false

def equalItems : List Datum → List Datum → Bool
  | [], [] => true
  | d :: ds, e :: es => equal d e && equalItems ds es
  | _, _ => false

def equalEntries : List (String × Datum) → List (String × Datum) → Bool
  | [], [] => true
  | (k, d) :: ds, (l, e) :: es => k == l && equal d e && equalEntries ds es
  | _, _ => false

end

instance : BEq Datum := ⟨equal⟩

/-- The entries with `key` set to `d`, in their place in the order of keys. -/
def insertEntry (key : String) (d : Datum) :
    List (String × Datum) → List (String × Datum)
  | [] => [(key, d)]
  | (k, e) :: entries =>
      if key < k then (key, d) :: (k, e) :: entries
      else if k < key then (k, e) :: insertEntry key d entries
      else (key, d) :: entries

/-- The mapping of a list of entries; of two entries with one key the later counts. -/
def ofEntries (entries : List (String × Datum)) : Datum :=
  map (entries.foldl (fun acc (k, d) => insertEntry k d acc) [])

def text? : Datum → Option String
  | text s => some s
  | _ => none

def int? : Datum → Option Int
  | int n => some n
  | _ => none

/-- The number as binary64; a whole number is rounded to the nearest. -/
def float? : Datum → Option Float
  | float x => some x
  | int n => some (Float.ofInt n)
  | _ => none

def list? : Datum → Option (List Datum)
  | list items => some items
  | _ => none

def entries? : Datum → Option (List (String × Datum))
  | map entries => some entries
  | _ => none

/-- The datum under a key of a mapping. -/
def get? (key : String) (d : Datum) : Option Datum :=
  d.entries?.bind (List.lookup key)

mutual

/-- The JSON value of a datum; a number that is not finite is null. -/
def toJson : Datum → Json
  | int n => .int n
  | float x => if x.isFinite then .float x else .null
  | text s => .text s
  | list items => .array (itemsToJson items)
  | map entries => .object (entriesToJson entries)

def itemsToJson : List Datum → List Json
  | [] => []
  | d :: ds => d.toJson :: itemsToJson ds

def entriesToJson : List (String × Datum) → List (String × Json)
  | [] => []
  | (k, d) :: ds => (k, d.toJson) :: entriesToJson ds

end

mutual

/-- The JSON text of a datum, written without a JSON value in between. -/
def serialChars : Datum → List Char
  | int n => Json.intChars n
  | float x => (Decimal.json.write x).toList
  | text s => Json.quoted s
  | list items => '[' :: serialItems items ++ [']']
  | map entries => '\x7b' :: serialEntries entries ++ ['\x7d']

def serialItems : List Datum → List Char
  | [] => []
  | d :: ds => serialChars d ++ serialMoreItems ds

/-- The items after the first, each behind a comma. -/
def serialMoreItems : List Datum → List Char
  | [] => []
  | d :: ds => ',' :: serialChars d ++ serialMoreItems ds

def serialEntries : List (String × Datum) → List Char
  | [] => []
  | (k, d) :: ds => Json.quoted k ++ ':' :: serialChars d ++ serialMoreEntries ds

/-- The entries after the first, each behind a comma. -/
def serialMoreEntries : List (String × Datum) → List Char
  | [] => []
  | (k, d) :: ds => ',' :: Json.quoted k ++ ':' :: serialChars d ++ serialMoreEntries ds

end

/-- The JSON text of a datum. -/
def serialize (d : Datum) : String := String.ofList d.serialChars

end Datum

end Harvest
