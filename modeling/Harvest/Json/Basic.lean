import Harvest.Decimal.Layout

/-!
# JSON values

JSON values with their members in the order in which they are written, and the compact text of a
value.
-/

namespace Harvest

/-- A JSON value.  An object may hold a name more than once. -/
inductive Json where
  | null
  | bool (b : Bool)
  | int (n : Int)
  | float (x : Float)
  | text (s : String)
  | array (items : List Json)
  | object (members : List (String × Json))
  /-- A string, or an object one of whose names, holds one half of a surrogate pair without the
  other, and so stands for no text. -/
  | unpaired
  deriving Repr, Inhabited

namespace Json

/-- The characters that stand for `c` inside a JSON string. -/
def escape (c : Char) : List Char :=
  match c with
  | '"' => ['\\', '"']
  | '\\' => ['\\', '\\']
  | '\n' => ['\\', 'n']
  | '\r' => ['\\', 'r']
  | '\t' => ['\\', 't']
  | '\x08' => ['\\', 'b']
  | '\x0c' => ['\\', 'f']
  | c =>
      if c.toNat < 0x20 then
        ['\\', 'u', '0', '0', Nat.digitChar (c.toNat / 16), Nat.digitChar (c.toNat % 16)]
      else [c]

/-- The characters of a JSON string, quotes included. -/
def quoted (s : String) : List Char :=
  '"' :: s.toList.flatMap escape ++ ['"']

/-- The characters of a whole number. -/
def intChars (n : Int) : List Char :=
  if n < 0 then '-' :: Nat.toDigits 10 n.natAbs else Nat.toDigits 10 n.natAbs

mutual

/-- The characters of the compact text of a value. -/
def chars : Json → List Char
  | null => "null".toList
  | bool true => "true".toList
  | bool false => "false".toList
  | int n => intChars n
  | float x => (Decimal.json.write x).toList
  | text s => quoted s
  | array items => '[' :: itemChars items ++ [']']
  | object members => '\x7b' :: memberChars members ++ ['\x7d']
  | unpaired => "null".toList

/-- The items of an array with a comma between them. -/
def itemChars : List Json → List Char
  | [] => []
  | [v] => v.chars
  | v :: w :: vs => v.chars ++ ',' :: itemChars (w :: vs)

/-- The members of an object with a comma between them. -/
def memberChars : List (String × Json) → List Char
  | [] => []
  | [(name, v)] => quoted name ++ ':' :: v.chars
  | (name, v) :: m :: ms => quoted name ++ ':' :: v.chars ++ ',' :: memberChars (m :: ms)

end

/-- The text of a value without blanks. -/
def compact (v : Json) : String := String.ofList v.chars

/-- The value of the first member called `name` of an object. -/
def member? (name : String) : Json → Option Json
  | object members => (members.find? (·.1 == name)).map (·.2)
  | _ => none

end Json

end Harvest
