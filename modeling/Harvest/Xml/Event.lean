import Harvest.Text.Blank
import Harvest.Text.Digit

/-!
# XML as events

An XML text as the sequence of its tags and texts.  Texts are given without the blanks at their
ends, and not at all if nothing is left.  End tags have to match the start tags; but elements that
are still open when the text ends are no mistake.  Whatever follows a mistake is not read.
-/

namespace Harvest.Xml

/-- A part of an XML text. -/
inductive Event where
  /-- A start tag: its name, and the characters behind it. -/
  | start (name : String) (attributes : List Char)
  /-- A tag that stands for an element without content. -/
  | alone (name : String) (attributes : List Char)
  | stop (name : String)
  /-- Text in which entities have not been replaced yet. -/
  | text (chars : List Char)
  /-- Text that stands for itself. -/
  | verbatim (chars : List Char)
  /-- A mistake, after which nothing follows. -/
  | broken
  deriving Repr, DecidableEq

/-- The blanks of XML. -/
def isBlank (c : Char) : Bool := c = ' ' || c = '\r' || c = '\n' || c = '\t'

/-- What stands before and behind the first occurrence of `stop`. -/
def splitAt? (stop : List Char) : List Char → Option (List Char × List Char)
  | [] => none
  | c :: cs =>
      if stop.isPrefixOf (c :: cs) then some ([], (c :: cs).drop stop.length)
      else (splitAt? stop cs).map fun (a, b) => (c :: a, b)

/-- The characters of a tag up to its end, past quoted parts, and what follows it; `quote` is the
quote that is open. -/
def tag? (quote : Option Char) : List Char → Option (List Char × List Char)
  | [] => none
  | c :: cs =>
      match quote with
      | none =>
          if c = '>' then some ([], cs)
          else
            let quote := if c = '"' || c = '\'' then some c else none
            (tag? quote cs).map fun (a, b) => (c :: a, b)
      | some q =>
          (tag? (if c = q then none else some q) cs).map fun (a, b) => (c :: a, b)

/-- What follows a document type, in which `depth` brackets are open. -/
def afterDoctype? (depth : Nat) : List Char → Option (List Char × List Char)
  | [] => none
  | c :: cs =>
      if c = '>' && depth = 0 then some ([], cs)
      else
        let depth := if c = '<' then depth + 1 else if c = '>' then depth - 1 else depth
        (afterDoctype? depth cs).map fun (a, b) => (c :: a, b)

/-- The name at the front of a tag, and the characters behind it. -/
def nameOf (tag : List Char) : String × List Char :=
  (String.ofList (tag.takeWhile (!isBlank ·)), tag.dropWhile (!isBlank ·))

/-- The name in an end tag: its characters without the blanks at their end, unless all are. -/
def stopName (chars : List Char) : List Char :=
  match Text.dropEndWhile isBlank chars with
  | [] => chars
  | name => name

/-- Whether `cs` begins with a word, written in small letters, in any case. -/
def startsWith (word : String) (cs : List Char) : Bool :=
  (cs.take word.length).map Char.toLower == word.toList

/-- What a mark that begins with `<!` says, and what follows it; a comment or document type says
nothing.  Only the keyword of a document type may be written in small letters. -/
def declaration? (cs : List Char) : Option (List Event × List Char) :=
  match cs with
  | '-' :: rest =>
      match rest with
      | '-' :: rest => (splitAt? "-->".toList rest).map fun (_, rest) => ([], rest)
      | _ => none
  | '[' :: rest =>
      if rest.take 6 == "CDATA[".toList then
        (splitAt? "]]>".toList (rest.drop 6)).map fun (chars, rest) => ([.verbatim chars], rest)
      else none
  | _ =>
      if startsWith "doctype" cs then
        match afterDoctype? 0 (cs.drop 7) with
        | some (name, rest) => if name.all isBlank then none else some ([], rest)
        | none => none
      else none

/-- The tag at the front of what follows a `<`, given the names of the open elements; with the
names of those that are open behind it. -/
def markup? (opened : List String) (cs : List Char) :
    Option (List Event × List String × List Char) :=
  match cs with
  | [] => none
  | '!' :: rest => (declaration? rest).map fun (events, rest) => (events, opened, rest)
  | '?' :: rest =>
      if rest.head? = some '>' then none
      else (splitAt? "?>".toList rest).map fun (_, rest) => ([], opened, rest)
  | '/' :: rest =>
      match tag? none rest, opened with
      | some (chars, rest), name :: opened =>
          if String.ofList (stopName chars) = name then some ([.stop name], opened, rest)
          else none
      | _, _ => none
  | cs =>
      match tag? none cs with
      | none => none
      | some (chars, rest) =>
          if chars.getLast? = some '/' then
            let (name, attributes) := nameOf chars.dropLast
            some ([.alone name attributes], opened, rest)
          else
            let (name, attributes) := nameOf chars
            some ([.start name attributes], name :: opened, rest)

/-- The text in front of the next tag without the blanks at its ends, and what follows it. -/
def textFront (cs : List Char) : List Char × List Char :=
  let cs := cs.dropWhile isBlank
  (Text.dropEndWhile isBlank (cs.takeWhile (· ≠ '<')), cs.dropWhile (· ≠ '<'))

/-- The events of a text; `fuel` bounds its length. -/
def eventsFrom : Nat → List String → List Char → List Event
  | 0, _, _ => []
  | fuel + 1, opened, cs =>
      let (text, rest) := textFront cs
      let here := if text.isEmpty then [] else [Event.text text]
      match rest with
      | [] => here
      | _ :: rest =>
          match markup? opened rest with
          | none => here ++ [.broken]
          | some (events, opened, rest) => here ++ events ++ eventsFrom fuel opened rest

/-- The events of a text, behind a byte order mark if there is one. -/
def events (text : String) : List Event :=
  let cs := match text.toList with
    | '\uFEFF' :: cs => cs
    | cs => cs
  eventsFrom (cs.length + 1) [] cs

/-! ## Entities and attributes -/

/-- The character that a number between `&#` and `;` stands for. -/
def charOf? (digits : List Char) : Option Char :=
  let (base, digits) := match digits with
    | 'x' :: rest => (16, rest)
    | _ => (10, digits)
  match Text.number? base digits with
  | none => none
  | some n =>
      if h : n.isValidChar then if n = 0 then none else some (Char.ofNatAux n h) else none

/-- The character that an entity stands for. -/
def entity? (name : List Char) : Option Char :=
  match name with
  | '#' :: digits => charOf? digits
  | _ =>
      match String.ofList name with
      | "lt" => some '<'
      | "gt" => some '>'
      | "amp" => some '&'
      | "apos" => some '\''
      | "quot" => some '"'
      | _ => none

/-- Replaces entities; `name` is what has been read of one, backwards. -/
def unescapeFrom (name : Option (List Char)) : List Char → Option (List Char)
  | [] => if name.isSome then none else some []
  | c :: cs =>
      match name with
      | none =>
          if c = '&' then unescapeFrom (some []) cs else (unescapeFrom none cs).map (c :: ·)
      | some read =>
          if c = ';' then
            match entity? read.reverse with
            | some d => (unescapeFrom none cs).map (d :: ·)
            | none => none
          else if c = '&' then none
          else unescapeFrom (some (c :: read)) cs

/-- The text with its entities replaced, if all of them are known. -/
def unescape? (chars : List Char) : Option String :=
  (unescapeFrom none chars).map String.ofList

/-- What the characters behind the name of a tag say. -/
inductive Attributes where
  | done
  | next (name : String) (value : List Char) (rest : Attributes)
  /-- What follows is no attribute. -/
  | broken
  deriving Repr, DecidableEq

/-- Reads attributes; those in `seen` may not occur again.  `fuel` bounds the length of what is
read. -/
def attributesFrom : Nat → List String → List Char → Attributes
  | 0, _, _ => .broken
  | fuel + 1, seen, cs =>
      match cs.dropWhile isBlank with
      | [] => .done
      | c :: cs =>
          let ends (c : Char) : Bool := c = '=' || isBlank c
          let name := String.ofList (c :: cs.takeWhile (!ends ·))
          match (cs.dropWhile (!ends ·)).dropWhile isBlank with
          | '=' :: rest =>
              if seen.contains name then .broken
              else
                match rest.dropWhile isBlank with
                | quote :: rest =>
                    if quote = '"' || quote = '\'' then
                      match splitAt? [quote] rest with
                      | some (value, rest) =>
                          .next name value (attributesFrom fuel (name :: seen) rest)
                      | none => .broken
                    else .broken
                | [] => .broken
          | _ => .broken

/-- The attributes of a tag. -/
def attributes (chars : List Char) : Attributes := attributesFrom (chars.length + 1) [] chars

end Harvest.Xml
