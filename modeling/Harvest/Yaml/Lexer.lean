import Harvest.Yaml.Scalar
import Harvest.Yaml.Tag

/-!
# Reading the tokens of YAML

Which token begins at a place, by its first characters and by what has been read before.
-/

namespace Harvest.Yaml

namespace Scan

/-- The end of the last document: all blocks are closed and no key can follow. -/
def closeAll : Scan Unit := do
  closeBlocksTo (-1)
  removeKey
  setKeyAllowed false

/-- A mark of three characters between documents. -/
def documentMark (token : Token) : Scan Unit := do
  closeAll
  skipMany 3
  emit token

/-! ## Directives, tags and anchors -/

def digits : Scan Nat := do
  let ds ← takeWhile Char.isDigit
  if ds.isEmpty || 9 < ds.length then failure
  return ds.foldl (fun n c => n * 10 + (c.toNat - 48)) 0

/-- The characters of tags; some of them only in a tag between angle brackets. -/
def isUriChar (bracketed : Bool) (c : Char) : Bool :=
  isNameChar c || [';', '/', '?', ':', '@', '&', '=', '+', '$', '.', '!', '~', '*', '\'', '(',
    ')', '%'].contains c || (bracketed && [',', '[', ']'].contains c)

/-- The characters of a part of a tag. -/
def uriChars (bracketed : Bool) : Scan (List Char) := takeWhile (isUriChar bracketed)

/-- The handle of a tag: an exclamation mark, or a name between two. -/
def tagHandle (directive : Bool) : Scan String := do
  if (← peek) ≠ some '!' then failure
  skip
  let name ← takeWhile isNameChar
  if (← peek) = some '!' then
    skip
    return String.ofList ('!' :: name ++ ['!'])
  else if directive && !name.isEmpty then failure
  else return String.ofList ('!' :: name)

/-- Reads a directive. -/
def directive : Scan Unit := do
  closeAll
  skip
  let name ← takeWhile isNameChar
  if !atSpace (← rest) then failure
  match String.ofList name with
  | "YAML" =>
      skipWhile isBlank
      let major ← digits
      if (← peek) ≠ some '.' then failure
      skip
      emit (.version major (← digits))
  | "TAG" =>
      skipWhile isBlank
      let handle ← tagHandle true
      if !((← peek).map isBlank).getD false then failure
      skipWhile isBlank
      let stem ← uriChars true
      if stem.isEmpty || !atSpace (← rest) then failure
      emit (.tagDirective handle (← Tag.part? stem))
  | _ => failure
  skipWhile isBlank
  skipComment
  if !(← atLineEnd) then failure
  let _ ← takeBreak

/-- Reads an anchor or an alias. -/
def nameToken (token : String → Token) : Scan Unit := do
  saveKey
  setKeyAllowed false
  skip
  let name ← takeWhile isNameChar
  let rest ← rest
  let ends := atSpace rest ||
    (rest.head?.map fun c => ['?', ':', ',', ']', '\x7d', '%', '@', '\x60'].contains c).getD false
  if name.isEmpty || !ends then failure
  emit (token (String.ofList name))

/-- Reads a tag. -/
def tagToken : Scan Unit := do
  saveKey
  setKeyAllowed false
  if (← rest).take 2 == ['!', '<'] then
    skipMany 2
    let uri ← uriChars true
    if uri.isEmpty || (← peek) ≠ some '>' then failure
    skip
    emit (.tag "" (← Tag.part? uri))
  else
    let handle ← tagHandle false
    let named := 1 < handle.length && handle.endsWith "!"
    let suffix ← uriChars false
    if named then
      if suffix.isEmpty then failure
      emit (.tag handle (← Tag.part? suffix))
    else
      let all ← Tag.part? ((handle.toList.drop 1) ++ suffix)
      emit (if all.isEmpty then .tag "" Tag.openBytes else .tag "!" all)
  let ends := atSpace (← rest) || ((← inFlow) && (← peek) = some ',')
  if !ends then failure

/-! ## Structure -/

/-- Opens a flow collection. -/
def flowStart (token : Token) : Scan Unit := do
  saveKey
  modify fun s => { s with flow := s.flow + 1, keys := none :: s.keys, keyAllowed := true }
  skip
  emit token

/-- Closes a flow collection. -/
def flowStop (token : Token) : Scan Unit := do
  removeKey
  modify fun s =>
    { s with
      keys := if 0 < s.flow then s.keys.drop 1 else s.keys
      flow := s.flow - 1
      keyAllowed := false }
  skip
  emit token

def flowEntry : Scan Unit := do
  removeKey
  setKeyAllowed true
  skip
  emit .flowEntry

/-- An item of a block sequence or a key with its own mark may open a block. -/
def blockMark (block : Token) : Scan Unit := do
  let s ← get
  if s.flow = 0 then
    if !s.keyAllowed then failure
    openBlock s.column none block
  removeKey

def blockEntry : Scan Unit := do
  blockMark .blockSequence
  setKeyAllowed true
  skip
  emit .blockEntry

def keyMark : Scan Unit := do
  blockMark .blockMapping
  setKeyAllowed (!(← inFlow))
  skip
  emit .key

/-- The colon behind a key: what has been read since the place of a possible key is the key. -/
def valueMark : Scan Unit := do
  match ((← get).keys.head?).join with
  | some key =>
      emitAt key.number .key
      openBlock key.column (some key.number) .blockMapping
      modify fun s => { s with keys := none :: s.keys.drop 1, keyAllowed := false }
  | none =>
      let s ← get
      if s.flow = 0 then
        if !s.keyAllowed then failure
        openBlock s.column none .blockMapping
      setKeyAllowed (s.flow = 0)
  skip
  emit .value

/-- Whether a plain scalar begins with these characters. -/
def startsPlain (flow : Bool) (c : Char) (cs : List Char) : Bool :=
  if c = '-' then !(cs.head?.map isBlank).getD false
  else if c = '?' || c = ':' then !flow && !atSpace cs
  else
    !isBlank c && !([',', '[', ']', '\x7b', '\x7d', '#', '&', '*', '!', '|', '>', '\'', '"', '%',
      '@', '\x60'].contains c)

/-- Reads the next token; the result tells whether there was one. -/
def next : Scan Bool := do
  skipSpace ((← rest).length + 1)
  let keys ← staleKeys (← get).keys
  modify ({ · with keys })
  closeBlocksTo (← column)
  let flow ← inFlow
  let column ← column
  match ← rest with
  | [] =>
      closeAll
      return false
  | c :: cs =>
      let quoted (single : Bool) : Scan Unit := do
        saveKey
        setKeyAllowed false
        quotedScalar single
      let block (literal : Bool) : Scan Unit := do
        removeKey
        setKeyAllowed true
        blockScalar literal
      if column = 0 && c = '%' then directive
      else if column = 0 && atMark '-' (c :: cs) then documentMark .documentStart
      else if column = 0 && atMark '.' (c :: cs) then documentMark .documentEnd
      else match c with
      | '[' => flowStart .flowSequence
      | '\x7b' => flowStart .flowMapping
      | ']' => flowStop .flowSequenceEnd
      | '\x7d' => flowStop .flowMappingEnd
      | ',' => flowEntry
      | '*' => nameToken .alias
      | '&' => nameToken .anchor
      | '!' => tagToken
      | '\'' => quoted true
      | '"' => quoted false
      | _ =>
          if c = '-' && atSpace cs then blockEntry
          else if c = '?' && (flow || atSpace cs) then keyMark
          else if c = ':' && (flow || atSpace cs) then valueMark
          else if c = '|' && !flow then block true
          else if c = '>' && !flow then block false
          else if startsPlain flow c cs then
            saveKey
            plainScalar
          else failure
      return true

/-- Reads all tokens; `fuel` bounds the length of the text. -/
def all : Nat → Scan Unit
  | 0 => pure ()
  | fuel + 1 => do if ← next then all fuel

end Scan

/-- The tokens of a text, if it has no mistake. -/
def Token.ofText? (text : String) : Option (Array Token) :=
  let cs := text.toList
  if cs.all isPrintable then
    let start : Lexer :=
      { rest := cs, index := 0, line := 0, column := 0, indent := -1, indents := [], flow := 0,
        keyAllowed := true, keys := [none], tokens := #[] }
    ((Scan.all (cs.length + 1)).run start).map fun (_, s) => s.tokens
  else none

end Harvest.Yaml
