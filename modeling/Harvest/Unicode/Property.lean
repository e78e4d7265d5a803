import Harvest.Unicode.Age
import Harvest.Unicode.ScriptExtension
import Harvest.Unicode.Segmentation

/-!
# Properties of characters

The look-up of a property by the name that a pattern gives, with or without a value, and the
classes of characters that patterns have letters for.
-/

namespace Harvest.Unicode

open Text (Charset)

/-- The characters of words: what is alphabetic, marks, digits, connectors and joiners. -/
def wordChars : Charset :=
  .unions [alphabetic, marks, unionOf ["nd", "pc"], listed "joincontrol"]

/-- The decimal digits of all scripts. -/
def decimalDigits : Charset := unionOf ["nd"]

/-- The blank characters. -/
def blanks : Charset := listed "whitespace"

/-- A name as names are compared: in small letters, without blanks, hyphens and underscores, and
without a leading `is`. -/
def looseName (name : String) : String :=
  let cs := name.toList
  let isPair := (cs.take 2).map Char.toLower == ['i', 's']
  let kept := ((if isPair then cs.drop 2 else cs).filter fun c =>
    c.toNat < 128 && c != ' ' && c != '_' && c != '-').map Char.toLower
  if isPair && kept == ['c'] then "isc" else String.ofList kept

/-- The characters with a property that a character has or has not. -/
def property? (name : String) : Option Charset := listed? name <|> derived? name

/-- The set that a name alone stands for: a property, a category or a script. -/
def named? (name : String) : Option Charset :=
  let name := looseName name
  property? name <|> category? name <|> script? name

/-- The set of the characters for which a property has a value. -/
def valued? (property value : String) : Option Charset :=
  let value := looseName value
  match looseName property with
  | "generalcategory" | "gc" => category? value
  | "script" | "sc" => script? value
  | "scriptextensions" | "scx" => scriptExtension? value
  | "age" => age? value
  | "graphemeclusterbreak" | "gcb" => graphemeBreak? value
  | "wordbreak" | "wb" => wordBreak? value
  | "sentencebreak" | "sb" => sentenceBreak? value
  | _ => none

end Harvest.Unicode
