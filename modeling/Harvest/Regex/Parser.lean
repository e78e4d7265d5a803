import Harvest.Regex.Combine
import Harvest.Unicode.Property
import Harvest.Unicode.Fold
import Harvest.Text.Blank
import Harvest.Text.Digit

/-!
# Reading regular expressions

The pattern syntax: literals and escapes, classes in brackets with nested classes and set
operations, groups with and without names, flags for the rest of a group or for a group alone, and
counted and uncounted repetition.  There are no back-references and no looking around, and what is
nested too deeply is refused.  Reading either gives an expression with all flags applied or fails
without saying why.
-/

namespace Harvest.Regex

open Text (Charset isBlank)

/-- How the pattern reads at a place. -/
structure Flags where
  ignoreCase : Bool
  multiLine : Bool
  dotAll : Bool
  lazily : Bool
  unicode : Bool
  crlf : Bool
  /-- Blanks and comments in the pattern are passed over. -/
  spaced : Bool
  deriving Repr

def Flags.start : Flags := ⟨false, false, false, false, true, false, false⟩

/-- Turns a flag on or off by its letter. -/
def Flags.set? (flags : Flags) (letter : Char) (on : Bool) : Option Flags :=
  match letter with
  | 'i' => some { flags with ignoreCase := on }
  | 'm' => some { flags with multiLine := on }
  | 's' => some { flags with dotAll := on }
  | 'U' => some { flags with lazily := on }
  | 'u' => some { flags with unicode := on }
  | 'R' => some { flags with crlf := on }
  | 'x' => some { flags with spaced := on }
  | _ => none

/-- The state of reading: what is left of the pattern, the flags, the number of groups so far and
their names. -/
structure Reading where
  rest : List Char
  flags : Flags
  groups : Nat
  names : List String

/-- A step of reading, which may fail. -/
abbrev Read := StateT Reading Option

/-- What has been read, and how deep the nesting in it is.  Groups, repetitions and classes count,
and so do alternatives, sequences, and the items and operations of a class where there are two or
more. -/
structure Nested (α : Type) where
  value : α
  depth : Nat

/-- The depth of the deepest nesting that is read. -/
def maxDepth : Nat := 250

/-- The depth of `count` things that stand side by side, the deepest of which has depth `depth`. -/
def sideBySide (count depth : Nat) : Nat := if 1 < count then depth + 1 else depth

namespace Read

def flags : Read Flags := return (← get).flags

def setRest (rest : List Char) : Read Unit := modify ({ · with rest })

def rest : Read (List Char) := return (← get).rest

/-- The next character of the pattern. -/
def peek : Read (Option Char) := return (← rest).head?

/-- The next character, which has to be there. -/
def here : Read Char := do
  match ← peek with
  | some c => return c
  | none => failure

def bump : Read Unit := do setRest ((← rest).drop 1)

/-- What follows blanks and comments. -/
def afterSpace (inComment : Bool) : List Char → List Char
  | [] => []
  | c :: cs =>
      if inComment then afterSpace (c ≠ '\n') cs
      else if isBlank c then afterSpace false cs
      else if c = '#' then afterSpace true cs
      else c :: cs

def space : Read Unit := do
  if (← flags).spaced then setRest (afterSpace false (← rest))

def bumpSpace : Read Unit := do
  bump
  space

/-- Passes over `word` if it comes next. -/
def bumpIf (word : String) : Read Bool := do
  let cs ← rest
  if word.toList.isPrefixOf cs then
    setRest (cs.drop word.length)
    return true
  else return false

/-- The next character but one, past blanks and the start of a comment. -/
def peekSpace : Read (Option Char) := do
  let cs := (← rest).drop 1
  if (← flags).spaced then
    let found := match cs.dropWhile isBlank with
      | '#' :: cs => cs.dropWhile isBlank
      | cs => cs
    return if found.isEmpty then cs.head? else found.head?
  else return cs.head?

/-! ## Sets of characters -/

/-- The predefined classes. -/
inductive Shorthand where
  | digit
  | space
  | word

def asciiRanges (name : String) : Option (List (Nat × Nat)) :=
  match name with
  | "alnum" => some [(0x30, 0x39), (0x41, 0x5A), (0x61, 0x7A)]
  | "alpha" => some [(0x41, 0x5A), (0x61, 0x7A)]
  | "ascii" => some [(0, 0x7F)]
  | "blank" => some [(0x09, 0x09), (0x20, 0x20)]
  | "cntrl" => some [(0, 0x1F), (0x7F, 0x7F)]
  | "digit" => some [(0x30, 0x39)]
  | "graph" => some [(0x21, 0x7E)]
  | "lower" => some [(0x61, 0x7A)]
  | "print" => some [(0x20, 0x7E)]
  | "punct" => some [(0x21, 0x2F), (0x3A, 0x40), (0x5B, 0x60), (0x7B, 0x7E)]
  | "space" => some [(0x09, 0x0D), (0x20, 0x20)]
  | "upper" => some [(0x41, 0x5A)]
  | "word" => some [(0x30, 0x39), (0x41, 0x5A), (0x5F, 0x5F), (0x61, 0x7A)]
  | "xdigit" => some [(0x30, 0x39), (0x41, 0x46), (0x61, 0x66)]
  | _ => none

def asciiSet (name : String) : Charset := .ofRanges ((asciiRanges name).getD [])

/-- The set of a predefined class. -/
def shorthandSet (unicode : Bool) : Shorthand → Charset
  | .digit => if unicode then Unicode.decimalDigits else asciiSet "digit"
  | .space => if unicode then Unicode.blanks else asciiSet "space"
  | .word => if unicode then Unicode.wordChars else asciiSet "word"

/-- The characters up to which a complement is taken. -/
def top (flags : Flags) : Nat := if flags.unicode then Charset.last else 0xFF

def complement (flags : Flags) (set : Charset) : Charset := set.complement (top flags)

/-- The set with the letters `A` to `Z` and `a` to `z` in both cases. -/
def asciiClosure (set : Charset) : Charset :=
  let lower := (set.inter ⟨[(0x41, 0x5A)]⟩).ranges.map fun (a, b) => (a + 32, b + 32)
  let upper := (set.inter ⟨[(0x61, 0x7A)]⟩).ranges.map fun (a, b) => (a - 32, b - 32)
  .ofRanges (set.ranges ++ lower ++ upper)

/-- The set with both cases of its letters. -/
def fold (flags : Flags) (set : Charset) : Charset :=
  if !flags.ignoreCase then set
  else if flags.unicode then Unicode.caseClosure set
  else asciiClosure set

/-- The set as it is written in a pattern: with both cases if case is ignored, and only then
negated. -/
def finished (flags : Flags) (negated : Bool) (set : Charset) : Charset :=
  let set := fold flags set
  if negated then complement flags set else set

/-- An expression for one element of a set. -/
def one (flags : Flags) (set : Charset) : Expr :=
  if flags.unicode then .ofChars set else .ofBytes set

/-! ## Escapes -/

/-- What stands for itself or for a set of characters. -/
inductive Atom where
  /-- A character; `isByte` tells that it is written as two hexadecimal digits. -/
  | literal (c : Char) (isByte : Bool)
  | shorthand (kind : Shorthand) (negated : Bool)
  /-- A set by its property, already finished. -/
  | property (set : Charset)
  | look (look : Look)

/-- The character of a code point. -/
def scalar (n : Nat) : Read Char :=
  if h : n.isValidChar then return Char.ofNatAux n h else failure

/-- Reads a given number of hexadecimal digits. -/
def hexDigits (n : Nat) : Nat → Read Nat
  | 0 => return n
  | count + 1 => do
      match Text.hexValue? (← here) with
      | some d =>
          bumpSpace
          hexDigits (n * 16 + d) count
      | none => failure

/-- Reads hexadecimal digits up to a closing brace; `fuel` bounds what is left. -/
def bracedHex (n : Nat) (digits : Nat) : Nat → Read Char
  | 0 => failure
  | fuel + 1 => do
      let c ← here
      if c = '\x7d' then
        bumpSpace
        if digits = 0 then failure else scalar n
      else match Text.hexValue? c with
        | some d =>
            bumpSpace
            bracedHex (Nat.min (n * 16 + d) 0x1000000) (digits + 1) fuel
        | none => failure

/-- A character by its number, behind the letter that says how many digits there are. -/
def hexLiteral (letter : Char) : Read Atom := do
  bumpSpace
  if (← here) = '\x7b' then
    bumpSpace
    return .literal (← bracedHex 0 0 (← rest).length) false
  else
    let n ← hexDigits 0 (if letter = 'x' then 2 else if letter = 'u' then 4 else 8)
    return .literal (← scalar n) (letter = 'x')

/-- Reads the characters up to a closing brace. -/
def braced (name : List Char) : Nat → Read (List Char)
  | 0 => failure
  | fuel + 1 => do
      let c ← here
      if c = '\x7d' then
        bump
        return name.reverse
      else
        bumpSpace
        braced (c :: name) fuel

/-- What stands before and behind the first occurrence of `sep`. -/
def splitOnce? (sep : List Char) : List Char → Option (List Char × List Char)
  | [] => none
  | c :: cs =>
      if sep.isPrefixOf (c :: cs) then some ([], (c :: cs).drop sep.length)
      else (splitOnce? sep cs).map fun (a, b) => (c :: a, b)

/-- The set that the text of a property stands for, and whether it asks for the others. -/
def propertySet? (name : List Char) : Option (Charset × Bool) :=
  let valued (negated : Bool) (parts : List Char × List Char) : Option (Charset × Bool) :=
    (Unicode.valued? (String.ofList parts.1) (String.ofList parts.2)).map (·, negated)
  match splitOnce? ['!', '='] name with
  | some parts => valued true parts
  | none =>
      match splitOnce? [':'] name with
      | some parts => valued false parts
      | none =>
          match splitOnce? ['='] name with
          | some parts => valued false parts
          | none => (Unicode.named? (String.ofList name)).map (·, false)

/-- A set of characters by a property. -/
def property (negated : Bool) : Read Atom := do
  bumpSpace
  let c ← here
  let name ←
    if c = '\x7b' then
      bumpSpace
      braced [] (← rest).length
    else if c = '\\' then failure
    else
      bumpSpace
      pure [c]
  let flags ← flags
  if !flags.unicode then failure
  match propertySet? name with
  | some (set, other) => return .property (finished flags (negated != other) set)
  | none => failure

/-- Whether a character may be escaped though it is no letter of an escape. -/
def isEscapable (c : Char) : Bool :=
  c.toNat < 128 && !c.isAlphanum && c != '<' && c != '>'

/-- The letters of the word looks in braces. -/
def isEdgeLetter (c : Char) : Bool := c.isAlpha || c = '-'

def edgeName (name : List Char) : Nat → Read (List Char)
  | 0 => return name.reverse
  | fuel + 1 => do
      match ← peek with
      | some c =>
          if isEdgeLetter c then
            bumpSpace
            edgeName (c :: name) fuel
          else return name.reverse
      | none => return name.reverse

/-- The kind of a word look, behind the letter `b`: the text in braces that may follow is a
repetition if it begins with no letter. -/
def edge : Read Edge := do
  let before ← rest
  if (← peek) != some '\x7b' then return .boundary
  bumpSpace
  if !isEdgeLetter (← here) then
    setRest before
    return .boundary
  let name ← edgeName [] (← rest).length
  if (← here) != '\x7d' then failure
  bump
  match String.ofList name with
  | "start" => return .start
  | "end" => return .stop
  | "start-half" => return .startHalf
  | "end-half" => return .stopHalf
  | _ => failure

/-- Reads what follows a backslash. -/
def escape : Read Atom := do
  bump
  let c ← here
  let unicode := (← flags).unicode
  let shorthand (kind : Shorthand) (negated : Bool) : Read Atom := do
    bump
    return .shorthand kind negated
  let literal (c : Char) : Read Atom := do
    bump
    return .literal c false
  match c with
  | 'x' | 'u' | 'U' => hexLiteral c
  | 'p' => property false
  | 'P' => property true
  | 'd' => shorthand .digit false
  | 'D' => shorthand .digit true
  | 's' => shorthand .space false
  | 'S' => shorthand .space true
  | 'w' => shorthand .word false
  | 'W' => shorthand .word true
  | 'a' => literal '\x07'
  | 'f' => literal '\x0c'
  | 't' => literal '\t'
  | 'n' => literal '\n'
  | 'r' => literal '\r'
  | 'v' => literal '\x0b'
  | 'A' => bump; return .look .textStart
  | 'z' => bump; return .look .textEnd
  | 'b' =>
      bump
      return .look (.word unicode (← edge))
  | 'B' => bump; return .look (.word unicode .noBoundary)
  | '<' => bump; return .look (.word unicode .start)
  | '>' => bump; return .look (.word unicode .stop)
  | c => if isEscapable c then literal c else failure

/-! ## Classes in brackets -/

/-- Combines two sets inside a class. -/
inductive SetOp where
  | inter
  | diff
  | symmDiff

def SetOp.apply : SetOp → Charset → Charset → Charset
  | inter => Charset.inter
  | diff => Charset.diff
  | symmDiff => Charset.symmDiff

/-- The number that a literal stands for in a class: without Unicode, a byte. -/
def classNumber (c : Char) (isByte : Bool) : Read Nat := do
  if (← flags).unicode || isByte || c.toNat < 128 then return c.toNat else failure

/-- The set of an atom in a class. -/
def atomSet (atom : Atom) : Read Charset := do
  let flags ← flags
  match atom with
  | .literal c isByte => return .singleton (← classNumber c isByte)
  | .shorthand kind negated =>
      let set := shorthandSet flags.unicode kind
      return if negated then complement flags set else set
  | .property set => return set
  | .look _ => failure

/-- A single item of a class. -/
def classAtom : Read Atom := do
  let c ← here
  if c = '\\' then escape
  else
    bump
    return .literal c false

/-- An item of a class or a range of them. -/
def classRange : Read Charset := do
  let first ← classAtom
  space
  let next ← here
  let after ← peekSpace
  if next ≠ '-' || after = some ']' || after = some '-' then atomSet first
  else
    bumpSpace
    let last ← classAtom
    match first, last with
    | .literal a aByte, .literal b bByte =>
        if b < a then failure
        return ⟨[(← classNumber a aByte, ← classNumber b bByte)]⟩
    | _, _ => failure

/-- A class by its name between `[:` and `:]`, if one comes next. -/
def namedClass? : Read (Option Charset) := do
  let before ← rest
  match before with
  | '[' :: ':' :: cs =>
      let (negated, cs) := match cs with
        | '^' :: cs => (true, cs)
        | cs => (false, cs)
      let name := cs.takeWhile (· ≠ ':')
      match asciiRanges (String.ofList name), cs.drop name.length with
      | some ranges, ':' :: ']' :: cs =>
          setRest cs
          return some (finished (← flags) negated (.ofRanges ranges))
      | _, _ => return none
  | _ => return none

/-- The items of a class so far: their union, their number, and the depth of the deepest. -/
structure Items where
  set : Charset
  count : Nat
  depth : Nat

namespace Items

def none : Items := ⟨.empty, 0, 0⟩

/-- The items with another one. -/
def add (items : Items) (set : Charset) (depth : Nat) : Items :=
  ⟨items.set.union set, items.count + 1, Nat.max items.depth depth⟩

end Items

/-- The hyphens that stand for themselves at the front of a class. -/
def frontHyphens (items : Items) : Nat → Read Items
  | 0 => failure
  | fuel + 1 => do
      if (← here) = '-' then
        bumpSpace
        frontHyphens (items.add (.singleton 0x2D) 0) fuel
      else return items

/-- The front of a class: whether it is negated, and the items that would not be ones elsewhere. -/
def classFront : Read (Bool × Items) := do
  bumpSpace
  let negated := (← here) = '^'
  if negated then bumpSpace
  let items ← frontHyphens .none ((← rest).length + 1)
  if items.count = 0 && (← here) = ']' then
    bumpSpace
    let _ ← here
    return (negated, Items.none.add (.singleton 0x5D) 0)
  else return (negated, items)

/-- Applies the operation that waits for its right side. -/
def settle (flags : Flags) (waiting : Option (SetOp × Nested Charset)) (items : Items) :
    Nested Charset :=
  let depth := sideBySide items.count items.depth
  match waiting with
  | none => ⟨items.set, depth⟩
  | some (op, left) =>
      ⟨op.apply (fold flags left.value) (fold flags items.set), Nat.max left.depth depth + 1⟩

/-- The items of a class up to its end, which is not taken; `nested` reads a class inside. -/
def classItems (nested : Read (Nested Charset)) :
    Nat → Option (SetOp × Nested Charset) → Items → Read (Nested Charset)
  | 0, _, _ => failure
  | fuel + 1, waiting, items => do
      space
      let flags ← flags
      let op (kind : SetOp) : Read (Nested Charset) := do
        bump
        bump
        classItems nested fuel (some (kind, settle flags waiting items)) .none
      match ← rest with
      | ']' :: _ => return settle flags waiting items
      | '&' :: '&' :: _ => op .inter
      | '-' :: '-' :: _ => op .diff
      | '~' :: '~' :: _ => op .symmDiff
      | '[' :: _ =>
          match ← namedClass? with
          | some more => classItems nested fuel waiting (items.add more 0)
          | none =>
              let inner ← nested
              classItems nested fuel waiting (items.add inner.value inner.depth)
      | _ => classItems nested fuel waiting (items.add (← classRange) 0)

/-- A class from its opening bracket to its end, in which classes may be nested a number of
times. -/
def bracketed : Nat → Read (Nested Charset)
  | 0 => failure
  | levels + 1 => do
      let (negated, front) ← classFront
      let content ← classItems (bracketed levels) ((← rest).length + 1) none front
      bump
      return ⟨finished (← flags) negated content.value, content.depth + 1⟩

/-! ## Repetition -/

/-- Reads a decimal number that fits 32 bits, with blanks around it. -/
def decimalDigits (digits : List Char) : Nat → Read (List Char)
  | 0 => return digits
  | fuel + 1 => do
      match ← peek with
      | some c =>
          if '0' ≤ c && c ≤ '9' then
            bumpSpace
            decimalDigits (c :: digits) fuel
          else return digits
      | none => return digits

/-- A count of a repetition, nothing where there are no digits. -/
def count? : Read (Option Nat) := do
  setRest ((← rest).dropWhile isBlank)
  let digits ← decimalDigits [] (← rest).length
  setRest ((← rest).dropWhile isBlank)
  space
  if digits.isEmpty then return none
  let n := digits.foldr (fun c n => n * 10 + (c.toNat - 48)) 0
  if n < 0x100000000 then return some n else failure

/-- The counts of a repetition in braces. -/
def counts : Read (Nat × Option Nat) := do
  bumpSpace
  let _ ← here
  let least ← count?
  let c ← here
  let range ←
    if c = ',' then
      bumpSpace
      if (← here) = '\x7d' then
        match least with
        | some n => pure (n, none)
        | none => failure
      else
        match least, ← count? with
        | some n, some m => if n ≤ m then pure (n, some m) else failure
        | _, _ => failure
    else match least with
      | some n => pure (n, some n)
      | none => failure
  if (← here) = '\x7d' then return range else failure

/-- Whether a repetition is greedy: a question mark behind it turns that around. -/
def greedy : Read Bool := do
  let lazily := (← flags).lazily
  if ← bumpIf "?" then return lazily else return !lazily

/-! ## Groups -/

/-- The flags in front of a group, up to the character that ends them. -/
def groupFlags (flags : Flags) (on : Bool) (seen : List Char) : Nat → Read Flags
  | 0 => failure
  | fuel + 1 => do
      let c ← here
      if c = ':' || c = ')' then
        if seen.head? = some '-' then failure else return flags
      else if seen.contains c then failure
      else if c = '-' then
        bump
        groupFlags flags false (c :: seen) fuel
      else match flags.set? c on with
        | some flags =>
            bump
            groupFlags flags on (c :: seen) fuel
        | none => failure

def isNameStart (c : Char) : Bool :=
  c = '_' || Unicode.alphabetic.contains c.toNat

def isNameChar (c : Char) : Bool :=
  isNameStart c || c = '.' || c = '[' || c = ']' ||
    (Unicode.unionOf ["nd", "nl", "no"]).contains c.toNat

/-- The name of a group, behind the `<`. -/
def groupName : Read Unit := do
  let name := (← rest).takeWhile (· ≠ '>')
  let state ← get
  match name, state.rest.drop name.length with
  | c :: cs, '>' :: after =>
      let text := String.ofList name
      if isNameStart c && cs.all isNameChar && !state.names.contains text then
        set { state with rest := after, names := text :: state.names }
      else failure
  | _, _ => failure

/-- What an opening parenthesis begins. -/
inductive Opening where
  /-- Flags for the rest of the group around. -/
  | setting
  | plain
  | capture (index : Nat)

/-- Reads what follows an opening parenthesis up to the content of a group; the flags are set for
what comes next. -/
def opening : Read Opening := do
  bumpSpace
  let cs ← rest
  let looksAround := ["?=", "?!", "?<=", "?<!"].any fun s => s.toList.isPrefixOf cs
  if looksAround then failure
  let capture : Read Opening :=
    modifyGet fun s => (.capture (s.groups + 1), { s with groups := s.groups + 1 })
  let named ← if ← bumpIf "?P<" then pure true else bumpIf "?<"
  if named then
    let index ← capture
    groupName
    return index
  else if ← bumpIf "?" then
    let before ← rest
    let flags ← groupFlags (← flags) true [] (before.length + 1)
    let c ← here
    bump
    modify ({ · with flags })
    if c = ')' then
      if before.head? = some ')' then failure else return .setting
    else return .plain
  else capture

/-! ## Expressions -/

/-- What may be repeated, or flags, which may not. -/
inductive Item where
  | expr (e : Nested Expr)
  | setting

/-- The expression of some items, the last one first. -/
def concat (items : List Item) : Nested Expr :=
  let es := items.reverse.filterMap fun
    | .expr e => some e
    | .setting => none
  ⟨.sequence (es.map (·.value)),
    sideBySide items.length ((es.map (·.depth)).foldl Nat.max 0)⟩

/-- The choice between alternatives, the last one first. -/
def choice (alternatives : List (Nested Expr)) : Nested Expr :=
  ⟨.firstOf (alternatives.reverse.map (·.value)),
    sideBySide alternatives.length ((alternatives.map (·.depth)).foldl Nat.max 0)⟩

/-- The set of a dot. -/
def dotSet (flags : Flags) : Charset :=
  if flags.dotAll then ⟨[(0, top flags)]⟩
  else complement flags (if flags.crlf then .ofRanges [(0x0A, 0x0A), (0x0D, 0x0D)]
    else .singleton 0x0A)

/-- The expression of a character that stands for itself. -/
def literalExpr (flags : Flags) (c : Char) (isByte : Bool) : Expr :=
  if flags.unicode then .ofChars (fold flags (.singleton c.toNat))
  else if isByte || c.toNat < 128 then
    .ofBytes (if c.toNat < 128 then fold flags (.singleton c.toNat) else .singleton c.toNat)
  else .ofChars (.singleton c.toNat)

/-- The expression of an atom. -/
def atomExpr (flags : Flags) : Atom → Expr
  | .literal c isByte => literalExpr flags c isByte
  | .shorthand kind negated =>
      let set := shorthandSet flags.unicode kind
      one flags (if negated then complement flags set else set)
  | .property set => one flags set
  | .look look => .look look

/-- Something that is no group, no repetition and no bar. -/
def simple : Read (Nested Expr) := do
  let flags ← flags
  let plain (e : Expr) : Nested Expr := ⟨e, 0⟩
  let c ← here
  match c with
  | '\\' => return plain (atomExpr flags (← escape))
  | '.' => bump; return plain (one flags (dotSet flags))
  | '^' =>
      bump
      return plain (.look (if flags.multiLine then .lineStart flags.crlf else .textStart))
  | '$' => bump; return plain (.look (if flags.multiLine then .lineEnd flags.crlf else .textEnd))
  | '[' =>
      let set ← bracketed maxDepth
      return ⟨one flags set.value, set.depth⟩
  | c => bump; return plain (literalExpr flags c false)

/-- Reads up to the end of the group or of the pattern, inside a number of groups: the alternatives
so far and the items of the current one are given with the last one first.  `fuel` bounds what is
left. -/
def body : Nat → Nat → List (Nested Expr) → List Item → Read (Nested Expr)
  | 0, _, _, _ => failure
  | fuel + 1, groups, alternatives, items => do
      space
      let again (min : Nat) (max : Option Nat) : Read (Nested Expr) := do
        let greedy ← greedy
        match items with
        | .expr e :: items =>
            body fuel groups alternatives
              (.expr ⟨.times e.value min max greedy, e.depth + 1⟩ :: items)
        | _ => failure
      match ← peek with
      | none => return choice (concat items :: alternatives)
      | some ')' => return choice (concat items :: alternatives)
      | some '|' =>
          bump
          body fuel groups (concat items :: alternatives) []
      | some '(' =>
          let outer ← flags
          match ← opening with
          | .setting => body fuel groups alternatives (.setting :: items)
          | inner => do
              if maxDepth ≤ groups then failure
              let e ← body fuel (groups + 1) [] []
              if (← here) ≠ ')' then failure
              bump
              modify ({ · with flags := outer })
              let value := match inner with
                | .capture index => Expr.group index e.value
                | _ => e.value
              body fuel groups alternatives (.expr ⟨value, e.depth + 1⟩ :: items)
      | some '?' => bump; again 0 (some 1)
      | some '*' => bump; again 0 none
      | some '+' => bump; again 1 none
      | some '\x7b' =>
          let (min, max) ← counts
          bumpSpace
          again min max
      | some _ => body fuel groups alternatives (.expr (← simple) :: items)

end Read

/-- The expression that a pattern describes. -/
def Expr.parse? (pattern : String) : Option Expr :=
  let cs := pattern.toList
  match (Read.body (cs.length + 1) 0 [] []).run ⟨cs, .start, 0, []⟩ with
  | some (e, state) =>
      if state.rest.isEmpty && e.depth ≤ maxDepth then some e.value else none
  | none => none

end Harvest.Regex
