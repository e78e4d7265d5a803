import Harvest.Html.Doctype
import Harvest.Html.Entity
import Harvest.Document.Basic
import Harvest.Text.Blank

/-!
# Tokens of HTML

The tokens of an HTML text, as they are read from its front.  How the text reads depends on the
element that it stands in: in some elements only the end tag of the element is markup, and scripts
have rules of their own about comments.  Reading never fails; every step takes at least one
character.
-/

namespace Harvest.Html

open Text (isAsciiBlank)

/-- A start tag with its attributes sorted by name. -/
structure Tag where
  name : String
  attributes : List Attribute
  selfClosing : Bool
  deriving Repr, DecidableEq

namespace Tag

def attribute? (tag : Tag) (name : String) : Option String :=
  (tag.attributes.find? (·.name = name)).map Attribute.value

/-- A start tag without attributes. -/
def bare (name : String) : Tag := ⟨name, [], false⟩

end Tag

/-- A piece of an HTML text.  The character NUL is a token only where markup is read. -/
inductive Token where
  | doctype (doctype : Doctype)
  | start (tag : Tag)
  | stop (name : String)
  | comment (text : String)
  | char (c : Char)
  /-- A mistake in the text that stands for nothing by itself. -/
  | fault
  | finish
  deriving Repr, DecidableEq

/-- How a text reads. -/
inductive Reading where
  | markup
  /-- Text up to the end tag; with `references`, character references are read. -/
  | inside (name : String) (references : Bool)
  | script
  | plain
  deriving Repr, DecidableEq

namespace Reading

/-- NUL stands for the replacement character in names, values and comments. -/
def visible (c : Char) : Char := if c = '\x00' then Entity.unknown else c

def skipBlanks (cs : List Char) : List Char := cs.dropWhile isAsciiBlank

/-- Whether `cs` begins with `word`, written in small letters, in any case. -/
def startsWith (word : String) (cs : List Char) : Bool :=
  (cs.take word.length).map Char.toLower == word.toList

def endsName (c : Char) : Bool := isAsciiBlank c || c = '/' || c = '>'

/-- The name of a tag at the front of a text. -/
def tagName (cs : List Char) : String :=
  String.ofList ((cs.takeWhile (!endsName ·)).map fun c => visible c.toLower)

/-- What follows the name of a tag. -/
def afterTagName (cs : List Char) : List Char := cs.dropWhile (!endsName ·)

/-- The characters up to `quote`, and what follows it; nothing when it is missing. -/
def quoted? (quote : Char) (cs : List Char) : Option (List Char × List Char) :=
  match cs.dropWhile (· ≠ quote) with
  | _ :: rest => some (cs.takeWhile (· ≠ quote), rest)
  | [] => none

/-- Replaces the character references of an attribute value; `fuel` bounds its length. -/
def valueChars : Nat → List Char → List Char
  | 0, _ => []
  | _, [] => []
  | fuel + 1, '&' :: cs =>
      let (chars, rest) := Entity.read true cs
      chars ++ valueChars fuel rest
  | fuel + 1, c :: cs => visible c :: valueChars fuel cs

def value (cs : List Char) : String := String.ofList (valueChars cs.length cs)

/-- The value of an attribute, if an equals sign stands in front, and what follows it; nothing
when the text ends before the value does. -/
def attributeValue? (cs : List Char) : Option (String × List Char) :=
  match skipBlanks cs with
  | '=' :: rest =>
      match skipBlanks rest with
      | '"' :: rest => (quoted? '"' rest).map fun (v, rest) => (value v, rest)
      | '\'' :: rest => (quoted? '\'' rest).map fun (v, rest) => (value v, rest)
      | rest =>
          let ends (c : Char) : Bool := isAsciiBlank c || c = '>'
          some (value (rest.takeWhile (!ends ·)), rest.dropWhile (!ends ·))
  | rest => some ("", rest)

/-- Adds an attribute unless there is one of the name already. -/
def addAttribute (name value : String) (seen : List Attribute) : List Attribute :=
  if seen.any (·.name = name) then seen else ⟨name, value, none⟩ :: seen

/-- The attributes of a tag in no order, whether the tag closes itself, and what follows
it; nothing when the text ends inside the tag.  `fuel` bounds the length of the text. -/
def tagRest? (fuel : Nat) (seen : List Attribute) (cs : List Char) :
    Option (List Attribute × Bool × List Char) :=
  match fuel, skipBlanks cs with
  | 0, _ => none
  | _, [] => none
  | _, '>' :: rest => some (seen, false, rest)
  | _, '/' :: '>' :: rest => some (seen, true, rest)
  | fuel + 1, '/' :: rest => tagRest? fuel seen rest
  | fuel + 1, c :: rest =>
      let ends (c : Char) : Bool := endsName c || c = '='
      let name := c :: rest.takeWhile (!ends ·)
      match attributeValue? (rest.dropWhile (!ends ·)) with
      | none => none
      | some (value, rest) =>
          tagRest? fuel
            (addAttribute (String.ofList (name.map fun c => visible c.toLower)) value seen) rest

/-- A start tag from its name on. -/
def startTag (cs : List Char) : List Token × List Char :=
  match tagRest? (cs.length + 1) [] (afterTagName cs) with
  | some (attributes, selfClosing, rest) =>
      ([.start ⟨tagName cs, Attribute.sort attributes, selfClosing⟩], rest)
  | none => ([], [])

/-- An end tag from its name on. -/
def endTag (cs : List Char) : List Token × List Char :=
  match tagRest? (cs.length + 1) [] (afterTagName cs) with
  | some (_, _, rest) => ([.stop (tagName cs)], rest)
  | none => ([], [])

/-- The text of a comment up to its end, which may break off, and what follows it. -/
def commentBody : List Char → List Char × List Char
  | [] => ([], [])
  | '-' :: '-' :: '>' :: rest => ([], rest)
  | '-' :: '-' :: '!' :: '>' :: rest => ([], rest)
  | ['-', '-', '!'] => ([], [])
  | ['-', '-'] => ([], [])
  | ['-'] => ([], [])
  | c :: cs =>
      let (text, rest) := commentBody cs
      (visible c :: text, rest)

/-- A comment from behind its opening. -/
def commentToken (cs : List Char) : Token × List Char :=
  match cs with
  | '>' :: rest => (.comment "", rest)
  | '-' :: '>' :: rest => (.comment "", rest)
  | _ =>
      let (text, rest) := commentBody cs
      (.comment (String.ofList text), rest)

/-- What is no other markup reads as a comment up to the next `>`. -/
def strayComment (cs : List Char) : Token × List Char :=
  (.comment (String.ofList ((cs.takeWhile (· ≠ '>')).map visible)),
    (cs.dropWhile (· ≠ '>')).drop 1)

/-- What follows the next `>`. -/
def afterClose (cs : List Char) : List Char := (cs.dropWhile (· ≠ '>')).drop 1

/-- A doctype that breaks off in front of `cs`, and what follows it. -/
def brokenDoctype (doctype : Doctype) (cs : List Char) : Token × List Char :=
  (.doctype { doctype with malformed := true }, afterClose cs)

/-- The quoted identifier of a doctype from behind its opening quote, given to `use` with what
follows it. -/
def doctypeIdentifier (doctype : Doctype) (quote : Char) (cs : List Char)
    (use : String → List Char → Token × List Char) : Token × List Char :=
  let ends (c : Char) : Bool := c = quote || c = '>'
  match cs.dropWhile (!ends ·) with
  | c :: rest =>
      if c = quote then use (String.ofList ((cs.takeWhile (!ends ·)).map visible)) rest
      else brokenDoctype doctype (c :: rest)
  | [] => brokenDoctype doctype []

/-- What follows the system identifier of a doctype. -/
def afterSystemId (doctype : Doctype) (cs : List Char) : Token × List Char :=
  match skipBlanks cs with
  | [] => brokenDoctype doctype []
  | rest => (.doctype doctype, afterClose rest)

/-- The system identifier of a doctype. -/
def systemId (doctype : Doctype) (quote : Char) (cs : List Char) : Token × List Char :=
  doctypeIdentifier doctype quote cs fun id rest =>
    afterSystemId { doctype with systemId := some id } rest

/-- The system identifier of a doctype, which has to be there. -/
def requiredSystemId (doctype : Doctype) (cs : List Char) : Token × List Char :=
  match skipBlanks cs with
  | '"' :: rest => systemId doctype '"' rest
  | '\'' :: rest => systemId doctype '\'' rest
  | rest => brokenDoctype doctype rest

/-- The system identifier of a doctype behind its public one, if there is one. -/
def optionalSystemId (doctype : Doctype) (cs : List Char) : Token × List Char :=
  match skipBlanks cs with
  | '>' :: rest => (.doctype doctype, rest)
  | rest => requiredSystemId doctype rest

/-- The identifiers of a doctype from behind the keyword of the public one. -/
def publicId (doctype : Doctype) (cs : List Char) : Token × List Char :=
  let read (quote : Char) (rest : List Char) : Token × List Char :=
    doctypeIdentifier doctype quote rest fun id rest =>
      optionalSystemId { doctype with publicId := some id } rest
  match skipBlanks cs with
  | '"' :: rest => read '"' rest
  | '\'' :: rest => read '\'' rest
  | rest => brokenDoctype doctype rest

/-- A doctype from behind its keyword. -/
def doctypeToken (cs : List Char) : Token × List Char :=
  match skipBlanks cs with
  | [] => brokenDoctype ⟨"", none, none, true⟩ []
  | '>' :: rest => (.doctype ⟨"", none, none, true⟩, rest)
  | cs =>
      let ends (c : Char) : Bool := isAsciiBlank c || c = '>'
      let name := String.ofList ((cs.takeWhile (!ends ·)).map fun c => visible c.toLower)
      let doctype : Doctype := ⟨name, none, none, false⟩
      match skipBlanks (cs.dropWhile (!ends ·)) with
      | '>' :: rest => (.doctype doctype, rest)
      | rest =>
          if startsWith "public" rest then publicId doctype (rest.drop 6)
          else if startsWith "system" rest then requiredSystemId doctype (rest.drop 6)
          else brokenDoctype doctype rest

/-- The characters of a section of character data in foreign markup, and what follows it. -/
def sectionBody : List Char → List Token × List Char
  | [] => ([], [])
  | ']' :: ']' :: '>' :: rest => ([], rest)
  | c :: cs =>
      let (tokens, rest) := sectionBody cs
      (.char c :: tokens, rest)

/-- Reads what follows a `<` where markup is read; `foreign` tells that the text stands in an
element of another vocabulary. -/
def markupToken (foreign : Bool) (cs : List Char) : List Token × List Char :=
  match cs with
  | '!' :: rest =>
      match rest with
      | '-' :: '-' :: rest =>
          let (token, rest) := commentToken rest
          ([token], rest)
      | _ =>
          if startsWith "doctype" rest then
            let (token, rest) := doctypeToken (rest.drop 7)
            ([token], rest)
          else if foreign && rest.take 7 == "[CDATA[".toList then sectionBody (rest.drop 7)
          else
            let (token, rest) := strayComment rest
            ([token], rest)
  | '/' :: c :: rest =>
      if c.isAlpha then endTag (c :: rest)
      else if c = '>' then ([.fault], rest)
      else
        let (token, rest) := strayComment (c :: rest)
        ([token], rest)
  | '/' :: [] => ([.char '<', .char '/'], [])
  | '?' :: rest =>
      let (token, rest) := strayComment ('?' :: rest)
      ([token], rest)
  | c :: rest => if c.isAlpha then startTag (c :: rest) else ([.char '<'], c :: rest)
  | [] => ([.char '<'], [])

/-- Whether the end tag of an element follows a `<`. -/
def closes (name : String) (cs : List Char) : Bool :=
  match cs with
  | '/' :: rest =>
      startsWith name rest && ((rest.drop name.length).head?.map endsName).getD false
  | _ => false

/-- How much of a script is inside a comment, and inside a script in that comment. -/
inductive Depth where
  | open
  | hidden
  | nested
  deriving Repr, DecidableEq

/-- The text of a script up to its end tag, and what follows the `<` of that; nothing follows when
the text ends first. -/
def scriptBody : Depth → List Char → List Char × List Char
  | _, [] => ([], [])
  | depth, c :: cs =>
      let go (depth : Depth) : List Char × List Char :=
        let (text, rest) := scriptBody depth cs
        (visible c :: text, rest)
      match depth with
      | .open =>
          if c = '<' && closes "script" cs then ([], cs)
          else if c = '<' && cs.take 3 == ['!', '-', '-'] then go .hidden
          else go .open
      | .hidden =>
          if c = '<' && closes "script" cs then ([], cs)
          else if c = '<' && closes "script" ('/' :: cs) then go .nested
          else if c = '-' && cs.take 2 == ['-', '>'] then go .open
          else go .hidden
      | .nested =>
          if c = '<' && closes "script" cs then go .hidden
          else if c = '-' && cs.take 2 == ['-', '>'] then go .open
          else go .nested

/-- The tokens of a character reference from behind its ampersand, and what follows it. -/
def reference (cs : List Char) : List Token × List Char :=
  let (chars, rest) := Entity.read false cs
  let tokens := chars.map Token.char
  (if Entity.isUnclosedNumber cs then .fault :: tokens else tokens, rest)

/-- Reads the next tokens at the front of a text that is not empty. -/
def next (reading : Reading) (foreign : Bool) (cs : List Char) : List Token × List Char :=
  match reading, cs with
  | _, [] => ([], [])
  | .markup, '<' :: cs => markupToken foreign cs
  | .markup, '&' :: cs => reference cs
  | .markup, c :: cs => ([.char c], cs)
  | .inside name references, c :: cs =>
      if c = '<' && closes name cs then endTag (cs.drop 1)
      else if references && c = '&' then reference cs
      else ([.char (visible c)], cs)
  | .script, cs =>
      let (text, rest) := scriptBody .open cs
      let (tokens, rest) := match rest with
        | [] => ([], [])
        | _ :: rest => endTag rest
      (text.map .char ++ tokens, rest)
  | .plain, c :: cs => ([.char (visible c)], cs)

/-- Ends every line with a line feed. -/
def unixLines : List Char → List Char
  | [] => []
  | '\r' :: '\n' :: cs => '\n' :: unixLines cs
  | '\r' :: cs => '\n' :: unixLines cs
  | c :: cs => c :: unixLines cs

/-- A text without the byte order mark in front of it. -/
def dropByteOrderMark : List Char → List Char
  | '\uFEFF' :: cs => cs
  | cs => cs

end Reading

end Harvest.Html
