import Harvest.Yaml.Token

/-!
# Scalars of YAML

How the characters of a scalar become its text.  Line breaks inside a scalar fold: a single one reads
as a space and of several the first is dropped, except in literal blocks.
-/

namespace Harvest.Yaml.Scan

/-! ## Gaps -/

/-- The blanks and breaks between two parts of a scalar. -/
structure Gap where
  /-- Whether there is a break. -/
  broken : Bool := false
  blanks : List Char := []
  first : List Char := []
  more : List Char := []

/-- What a gap reads as. -/
def Gap.fold (g : Gap) : List Char :=
  if !g.broken then g.blanks
  else if g.first = ['\n'] then if g.more.isEmpty then [' '] else g.more
  else g.first ++ g.more

/-- Reads the blanks and breaks that come next; a tab behind a break may not stand in front of the
column `margin`.  `fuel` bounds what is left. -/
def gap (margin : Nat) (g : Gap) : Nat → Scan Gap
  | 0 => return g
  | fuel + 1 => do
      match ← peek with
      | none => return g
      | some c =>
          if isBlank c then
            if g.broken && c = '\t' && (← column) < margin then failure
            skip
            gap margin (if g.broken then g else { g with blanks := g.blanks ++ [c] }) fuel
          else if isBreak c then
            let line ← takeBreak
            gap margin (if g.broken then { g with more := g.more ++ line }
              else { g with broken := true, blanks := [], first := line }) fuel
          else return g

/-! ## Quoted scalars -/

/-- The character that a number of hexadecimal digits stands for. -/
def hexChar (n : Nat) : Nat → Scan Char
  | 0 => if h : n.isValidChar then return Char.ofNatAux n h else failure
  | count + 1 => do
      match (← peek).bind Text.hexValue? with
      | some d =>
          skip
          hexChar (n * 16 + d) count
      | none => failure

/-- The character that a letter behind a backslash stands for by itself. -/
def escaped? (c : Char) : Option Char :=
  match c with
  | '0' => some '\x00'
  | 'a' => some '\x07'
  | 'b' => some '\x08'
  | 't' => some '\t'
  | '\t' => some '\t'
  | 'n' => some '\n'
  | 'v' => some '\x0b'
  | 'f' => some '\x0c'
  | 'r' => some '\r'
  | 'e' => some '\x1b'
  | ' ' => some ' '
  | '"' => some '"'
  | '/' => some '/'
  | '\\' => some '\\'
  | 'N' => some '\u0085'
  | '_' => some '\u00a0'
  | 'L' => some '\u2028'
  | 'P' => some '\u2029'
  | _ => none

/-- Reads an escape behind its backslash. -/
def escapedChar : Scan Char := do
  match ← peek with
  | none => failure
  | some c =>
      skip
      match c with
      | 'x' => hexChar 0 2
      | 'u' => hexChar 0 4
      | 'U' => hexChar 0 8
      | _ =>
          match escaped? c with
          | some d => return d
          | none => failure

/-- Reads a part of a quoted scalar up to a blank, a break or the closing quote; the result also
tells whether an escaped break has ended it.  `read` holds the part backwards. -/
def quotedPart (single : Bool) (read : List Char) : Nat → Scan (List Char × Bool)
  | 0 => return (read.reverse, false)
  | fuel + 1 => do
      match ← rest with
      | [] => return (read.reverse, false)
      | c :: cs =>
          if isBlank c || isBreak c then return (read.reverse, false)
          else if single then
            if c = '\'' then
              if cs.head? = some '\'' then
                skipMany 2
                quotedPart single ('\'' :: read) fuel
              else return (read.reverse, false)
            else
              skip
              quotedPart single (c :: read) fuel
          else if c = '"' then return (read.reverse, false)
          else if c = '\\' then
            skip
            if (cs.head?.map isBreak).getD false then
              let _ ← takeBreak
              return (read.reverse, true)
            else
              let d ← escapedChar
              quotedPart single (d :: read) fuel
          else
            skip
            quotedPart single (c :: read) fuel

/-- Reads a quoted scalar from behind its opening quote. -/
def quotedFrom (single : Bool) : Nat → Scan (List Char)
  | 0 => failure
  | fuel + 1 => do
      if atDocumentMark (← column) (← rest) then failure
      if (← rest).isEmpty then failure
      let (part, broken) ← quotedPart single [] (← rest).length
      if (← peek) = some (if single then '\'' else '"') then
        skip
        return part
      let g ← gap 0 { broken } (← rest).length
      return part ++ g.fold ++ (← quotedFrom single fuel)

/-- Reads a quoted scalar. -/
def quotedScalar (single : Bool) : Scan Unit := do
  skip
  let text ← quotedFrom single ((← rest).length + 1)
  emit (.scalar .quoted (String.ofList text))

/-! ## Plain scalars -/

/-- The characters that end a plain scalar inside a flow collection. -/
def isFlowMark (c : Char) : Bool := [',', '[', ']', '\x7b', '\x7d'].contains c

/-- Reads a part of a plain scalar up to a blank or break, or to the end of the scalar. -/
def plainPart (read : List Char) : Nat → Scan (List Char)
  | 0 => return read.reverse
  | fuel + 1 => do
      let flow ← inFlow
      match ← rest with
      | [] => return read.reverse
      | c :: cs =>
          if isBlank c || isBreak c then return read.reverse
          else if c = ':' && flow && cs.head?.any (fun d => isFlowMark d || d = '?') then failure
          else if (c = ':' && atSpace cs) || (flow && isFlowMark c) then return read.reverse
          else
            skip
            plainPart (c :: read) fuel

/-- Reads a plain scalar, `g` being the gap in front of what comes next. -/
def plainFrom (margin : Nat) (g : Gap) : Nat → Scan (List Char × Gap)
  | 0 => return ([], g)
  | fuel + 1 => do
      if atDocumentMark (← column) (← rest) || (← peek) = some '#' then return ([], g)
      let part ← plainPart [] (← rest).length
      let read := if part.isEmpty then [] else g.fold ++ part
      let g := if part.isEmpty then g else {}
      if !((← peek).map fun c => isBlank c || isBreak c).getD false then return (read, g)
      let g ← gap margin g (← rest).length
      if !(← inFlow) && (← column) < margin then return (read, g)
      let (more, g) ← plainFrom margin g fuel
      return (read ++ more, g)

/-- Reads a plain scalar.  A key may begin on the line behind one. -/
def plainScalar : Scan Unit := do
  setKeyAllowed false
  let margin := ((← get).indent + 1).toNat
  let (text, g) ← plainFrom margin {} ((← rest).length + 1)
  if g.broken then setKeyAllowed true
  emit (.scalar .plain (String.ofList text))

/-! ## Block scalars -/

/-- What becomes of the breaks at the end of a block scalar. -/
inductive Chomping where
  | strip
  | clip
  | keep
  deriving DecidableEq

def chomping? : Scan (Option Chomping) := do
  match ← peek with
  | some '+' =>
      skip
      return some .keep
  | some '-' =>
      skip
      return some .strip
  | _ => return none

/-- The digit that gives the indentation of a block scalar. -/
def indentation? : Scan (Option Nat) := do
  match ← peek with
  | some c =>
      if c = '0' then failure
      if c.isDigit then
        skip
        return some (c.toNat - 48)
      else return none
  | none => return none

/-- The signs behind the mark of a block scalar, in either order. -/
def blockHeader : Scan (Chomping × Option Nat) := do
  match ← chomping? with
  | some chomping => return (chomping, ← indentation?)
  | none =>
      match ← indentation? with
      | some n => return ((← chomping?).getD .clip, some n)
      | none => return (.clip, none)

/-- Reads the empty lines in front of the next line of a block scalar: the breaks, and the furthest
column that blanks reach.  Without a column given, blanks count up to any. -/
def blockBreaks (indent : Option Nat) (breaks : List Char) (furthest : Nat) :
    Nat → Scan (List Char × Nat)
  | 0 => return (breaks, furthest)
  | fuel + 1 => do
      let here ← column
      let blanks := ((← rest).takeWhile (· = ' ')).length
      skipMany (match indent with
        | some n => Nat.min blanks (n - here)
        | none => blanks)
      let here ← column
      let furthest := Nat.max furthest here
      let inMargin := (indent.map fun n => decide (here < n)).getD true
      if inMargin && (← peek) = some '\t' then failure
      if !((← peek).map isBreak).getD false then return (breaks, furthest)
      let line ← takeBreak
      blockBreaks indent (breaks ++ line) furthest fuel

/-- Reads the lines of a block scalar: `first` is the break behind the last line, `breaks` those of
the empty lines since, and `wasBlank` tells that the last line began with a blank.  Gives the text
and the breaks at its end. -/
def blockLines (literal : Bool) (indent : Nat) (first breaks : List Char) (wasBlank : Bool) :
    Nat → Scan (List Char × List Char × List Char)
  | 0 => return ([], first, breaks)
  | fuel + 1 => do
      if (← column) ≠ indent || (← rest).isEmpty then return ([], first, breaks)
      let isBlankHere := ((← peek).map isBlank).getD false
      let folds := !literal && first = ['\n'] && !wasBlank && !isBlankHere
      let between :=
        if folds then if breaks.isEmpty then [' '] else breaks
        else first ++ breaks
      let line ← takeWhile (!isBreak ·)
      let first ← takeBreak
      let (breaks, _) ← blockBreaks (some indent) [] 0 ((← rest).length + 1)
      let (more, ends) ← blockLines literal indent first breaks isBlankHere fuel
      return (between ++ line ++ more, ends)

/-- Reads a block scalar. -/
def blockScalar (literal : Bool) : Scan Unit := do
  skip
  let (chomping, increment) ← blockHeader
  skipWhile isBlank
  skipComment
  if !(← atLineEnd) then failure
  let _ ← takeBreak
  let outer := (← get).indent
  let given := increment.map fun n => if 0 ≤ outer then outer.toNat + n else n
  let (breaks, furthest) ← blockBreaks given [] 0 ((← rest).length + 1)
  let indent := given.getD (Nat.max furthest (Nat.max (outer + 1).toNat 1))
  let (text, first, breaks) ← blockLines literal indent [] breaks false ((← rest).length + 1)
  let ends := match chomping with
    | .strip => []
    | .clip => first
    | .keep => first ++ breaks
  emit (.scalar (if literal then .literal else .folded) (String.ofList (text ++ ends)))

end Harvest.Yaml.Scan
