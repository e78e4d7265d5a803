import Harvest.Definition.Defect
import Harvest.Definition.Basic
import Harvest.Regex.Search

/-!
# Text filters

Compiled rules for texts.  A text is accepted if one of the includes matches, or there are none, and
none of the excludes does.  The removes take their matches out of a text, each from what the one
before has left, and the submatch picks the parts of a text that count.
-/

namespace Harvest

/-- Compiled rules for texts. -/
structure TextFilter where
  submatch : Option Regex := none
  includes : List Regex := []
  excludes : List Regex := []
  removes : List Regex := []
  deriving Repr

namespace TextFilter

/-- Compiles the lines of a rule, up to the first that is malformed. -/
def compileLines (rule : Rule) (lines : Lines) : Except Defect (List Regex) :=
  lines.toList.mapM fun line =>
    match Regex.compile? line with
    | some r => .ok r
    | none => .error (.badRegex rule line)

/-- Compiles the submatch of some rules; a blank one is none. -/
def compileSubmatch (submatch : String) : Except Defect (Option Regex) :=
  let pattern := Text.trim submatch
  if pattern.isEmpty then .ok none
  else match Regex.compile? pattern with
  | some r => .ok (some r)
  | none => .error (.badRegex .submatch pattern)

def compileRules (rules : Definition.TextRules) : Except Defect TextFilter := do
  let submatch ← compileSubmatch rules.submatch
  let includes ← compileLines .includes rules.includes
  let excludes ← compileLines .excludes rules.excludes
  let removes ← compileLines .removes rules.removes
  return { submatch, includes, excludes, removes }

/-- The filter of rules; without rules everything is accepted and kept. -/
def compile : Option Definition.TextRules → Except Defect TextFilter
  | none => .ok {}
  | some rules => compileRules rules

def isEmpty (f : TextFilter) : Bool :=
  f.submatch.isNone && f.includes.isEmpty && f.excludes.isEmpty && f.removes.isEmpty

/-- Whether a text is accepted. -/
def accepts (f : TextFilter) (input : Bytes) : Bool :=
  (f.includes.isEmpty || f.includes.any fun r => r.isMatch input) &&
    !(f.excludes.any fun r => r.isMatch input)

/-- The text without the matches of the removes. -/
def clean (f : TextFilter) (input : Bytes) : Bytes :=
  f.removes.foldl (fun text r => r.removeAll text) input

/-- The group of a submatch that counts: the first, or the whole match where there is no group. -/
def groupOf (r : Regex) : Nat := if r.groupCount = 0 then 0 else 1

/-- The part of a text that a match picks; a group that took no part picks nothing. -/
def pick (r : Regex) (input : Array UInt8) (m : Regex.Match) : Bytes :=
  match m.span? (groupOf r) with
  | some span => Regex.slice input span
  | none => []

/-- The first part that counts: the whole text without a submatch, and nothing where the submatch
does not match. -/
def first (f : TextFilter) (input : Bytes) : Bytes :=
  match f.submatch with
  | none => input
  | some r =>
      match r.find? input with
      | some m => pick r input.toArray m
      | none => []

/-- All parts that count. -/
def all (f : TextFilter) (input : Bytes) : List Bytes :=
  match f.submatch with
  | none => [input]
  | some r => (r.findAll input).map (pick r input.toArray)

end TextFilter

end Harvest
