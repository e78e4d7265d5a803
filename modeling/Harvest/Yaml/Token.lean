import Harvest.Text.Digit
import Harvest.Text.Utf8

/-!
# Tokens of YAML

The tokens of a YAML text and the cursor that reads them.  Indentation becomes tokens of its own,
which open and close blocks; a key is known as one only by the colon behind it, so the place of a
possible key is kept until then.
-/

namespace Harvest.Yaml

/-- How a scalar is written. -/
inductive Style where
  | plain
  | quoted
  | literal
  | folded
  deriving DecidableEq, Repr

inductive Token where
  | version (major minor : Nat)
  | tagDirective (handle : String) (stem : Bytes)
  | documentStart
  | documentEnd
  | blockSequence
  | blockMapping
  | blockEnd
  | flowSequence
  | flowSequenceEnd
  | flowMapping
  | flowMappingEnd
  | blockEntry
  | flowEntry
  | key
  | value
  | alias (name : String)
  | anchor (name : String)
  | tag (handle : String) (suffix : Bytes)
  | scalar (style : Style) (text : String)
  deriving DecidableEq, Repr

/-- A place where a key may have begun: the number of its first token and its position.  An index
counts bytes, and a column counts characters. -/
structure PossibleKey where
  /-- It has to be a key, since it stands where only one can. -/
  required : Bool
  number : Nat
  index : Nat
  line : Nat
  column : Nat
  deriving Repr

/-- The state of reading tokens. -/
structure Lexer where
  rest : List Char
  index : Nat
  line : Nat
  column : Nat
  indent : Int
  indents : List Int
  /-- How many flow collections are open. -/
  flow : Nat
  keyAllowed : Bool
  /-- The possible key of each open flow collection and of the block around them, the innermost
  first. -/
  keys : List (Option PossibleKey)
  tokens : Array Token

/-- A step of reading, which may fail. -/
abbrev Scan := StateT Lexer Option

/-! ## Characters -/

/-- Whether a character may stand in a text at all. -/
def isPrintable (c : Char) : Bool :=
  let n := c.toNat
  n = 0x09 || n = 0x0A || n = 0x0D || (0x20 ≤ n && n ≤ 0x7E) || n = 0x85 ||
    (0xA0 ≤ n && n ≤ 0xFFFD) || 0x10000 ≤ n

def isBreak (c : Char) : Bool :=
  c = '\n' || c = '\r' || c.toNat = 0x85 || c.toNat = 0x2028 || c.toNat = 0x2029

def isBlank (c : Char) : Bool := c = ' ' || c = '\t'

/-- Whether a token that needs space behind it may end before `cs`. -/
def atSpace (cs : List Char) : Bool :=
  match cs with
  | [] => true
  | c :: _ => isBlank c || isBreak c

/-- Whether a line of dots or hyphens that ends a document begins here. -/
def atMark (mark : Char) (cs : List Char) : Bool :=
  cs.take 3 == [mark, mark, mark] && atSpace (cs.drop 3)

def atDocumentMark (column : Nat) (cs : List Char) : Bool :=
  column = 0 && (atMark '-' cs || atMark '.' cs)

/-- The characters of names. -/
def isNameChar (c : Char) : Bool := c.isAlphanum || c = '_' || c = '-'

namespace Scan

def rest : Scan (List Char) := return (← get).rest

def peek : Scan (Option Char) := return (← get).rest.head?

def inFlow : Scan Bool := return 0 < (← get).flow

def column : Scan Nat := return (← get).column

/-- The number of bytes of some characters. -/
def width (cs : List Char) : Nat := (cs.map Char.utf8Size).foldr (· + ·) 0

/-- Passes over a character. -/
def skip : Scan Unit :=
  modify fun s =>
    { s with
      rest := s.rest.drop 1, index := s.index + width (s.rest.take 1), column := s.column + 1 }

def skipMany : Nat → Scan Unit
  | 0 => pure ()
  | n + 1 => do
      skip
      skipMany n

/-- Passes over characters that `p` accepts. -/
def skipWhile (p : Char → Bool) : Scan Unit := do
  skipMany ((← rest).takeWhile p).length

/-- The characters that `p` accepts. -/
def takeWhile (p : Char → Bool) : Scan (List Char) := do
  let cs := (← rest).takeWhile p
  skipMany cs.length
  return cs

/-- Passes over a line break, if there is one; gives what it reads as. -/
def takeBreak : Scan (List Char) := do
  let line (count : Nat) : Scan Unit :=
    modify fun s =>
      { s with rest := s.rest.drop count, index := s.index + width (s.rest.take count),
               column := 0, line := s.line + 1 }
  match ← rest with
  | '\r' :: '\n' :: _ =>
      line 2
      return ['\n']
  | c :: _ =>
      if !isBreak c then return []
      line 1
      return if c.toNat = 0x2028 || c.toNat = 0x2029 then [c] else ['\n']
  | [] => return []

/-- Passes over a comment. -/
def skipComment : Scan Unit := do
  if (← peek) = some '#' then skipWhile (!isBreak ·)

/-- Whether a line ends here. -/
def atLineEnd : Scan Bool := return ((← peek).map isBreak).getD true

def setKeyAllowed (keyAllowed : Bool) : Scan Unit := modify ({ · with keyAllowed })

def emit (token : Token) : Scan Unit :=
  modify fun s => { s with tokens := s.tokens.push token }

/-- Puts a token in front of the one with a number. -/
def emitAt (number : Nat) (token : Token) : Scan Unit :=
  modify fun s => { s with tokens := s.tokens.insertIdxIfInBounds number token }

/-! ## Possible keys -/

/-- Gives up a possible key; one that has to be a key is missed. -/
def dropKey : Option PossibleKey → Scan Unit
  | some key => if key.required then failure else pure ()
  | none => pure ()

/-- Gives up the possible key of the innermost collection. -/
def removeKey : Scan Unit := do
  dropKey (((← get).keys.head?).join)
  modify fun s => { s with keys := none :: s.keys.drop 1 }

/-- Notes that a key may begin here. -/
def saveKey : Scan Unit := do
  let s ← get
  if s.keyAllowed then
    let required := s.flow = 0 && s.indent = (s.column : Int)
    removeKey
    modify fun s =>
      { s with
        keys := some ⟨required, s.tokens.size, s.index, s.line, s.column⟩ :: s.keys.drop 1 }

/-- Gives up the possible keys that end on an earlier line or are too long. -/
def staleKeys : List (Option PossibleKey) → Scan (List (Option PossibleKey))
  | [] => return []
  | none :: keys => return none :: (← staleKeys keys)
  | some key :: keys => do
      let s ← get
      if key.line < s.line || key.index + 1024 < s.index then
        dropKey (some key)
        return none :: (← staleKeys keys)
      else return some key :: (← staleKeys keys)

/-! ## Indentation -/

/-- Opens a block at a column, unless one is open there; its token goes in front of the one with
the number, or at the end. -/
def openBlock (column : Nat) (number : Option Nat) (token : Token) : Scan Unit := do
  let s ← get
  if s.flow = 0 && s.indent < (column : Int) then
    set { s with indent := (column : Int), indents := s.indent :: s.indents }
    match number with
    | some number => emitAt number token
    | none => emit token

/-- Closes the blocks that begin behind a column. -/
def closeBlocks (column : Int) : List Int → Scan Unit
  | [] => pure ()
  | outer :: indents => do
      if column < (← get).indent then
        emit .blockEnd
        modify ({ · with indent := outer, indents })
        closeBlocks column indents

def closeBlocksTo (column : Int) : Scan Unit := do
  let s ← get
  if s.flow = 0 then closeBlocks column s.indents

/-! ## Between tokens -/

/-- Passes over blanks, comments, line breaks, and a byte order mark that begins a line, of which it
is the first column; `fuel` bounds what is left. -/
def skipSpace : Nat → Scan Unit
  | 0 => pure ()
  | fuel + 1 => do
      if (← column) = 0 && (← peek) = some '\uFEFF' then skip
      let s ← get
      skipWhile fun c => c = ' ' || (c = '\t' && (0 < s.flow || !s.keyAllowed))
      skipComment
      if ((← peek).map isBreak).getD false then
        let _ ← takeBreak
        unless ← inFlow do setKeyAllowed true
        skipSpace fuel

end Scan

end Harvest.Yaml
