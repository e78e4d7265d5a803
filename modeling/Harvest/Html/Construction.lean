import Harvest.Html.Draft
import Harvest.Html.Token

/-!
# Construction of documents

What is kept while the tokens of an HTML text become a document: the draft, the open elements, the
formatting elements that are opened again after they have been cut off, and where the next node
goes.  The elements that are open are listed with the innermost first, and so are the formatting
elements.
-/

namespace Harvest.Html

/-- An element on the list of open elements. -/
structure Standing where
  id : Nat
  name : String
  vocabulary : Vocabulary
  deriving DecidableEq, Repr

/-- An entry on the list of formatting elements. -/
inductive Mark where
  /-- The edge of an element that formatting does not cross. -/
  | edge
  | element (id : Nat) (tag : Tag)
  deriving DecidableEq, Repr

/-- The part of a document that is being read. -/
inductive Mode where
  | initial
  | beforeHtml
  | beforeHead
  | inHead
  | afterHead
  | inBody
  | text
  | inTable
  | inTableText
  | inCaption
  | inColumns
  | inTableBody
  | inRow
  | inCell
  | inSelect
  | inSelectInTable
  | inTemplate
  | afterBody
  | inFrameset
  | afterFrameset
  | afterAfterBody
  | afterAfterFrameset
  deriving DecidableEq, Repr

/-- The state of a construction. -/
structure Construction where
  draft : Draft
  /-- Whether a fragment of a body is read, and not a document. -/
  isFragment : Bool
  openElements : List Standing
  formatting : List Mark
  mode : Mode
  /-- The mode to go back to after text. -/
  returnMode : Mode
  /-- The modes of the open templates. -/
  templateModes : List Mode
  /-- The characters read between the rows and cells of a table, the last one first. -/
  tableText : List Char
  head : Option Nat
  form : Option Nat
  /-- Whether a frameset may still replace the body. -/
  framesetOk : Bool
  /-- Whether a table may stand in a paragraph, as in documents without a proper doctype. -/
  tablesInParagraphs : Bool
  /-- Whether misplaced content of tables goes in front of them. -/
  fostering : Bool
  /-- Whether a line feed that comes next is dropped. -/
  skipLineFeed : Bool
  reading : Reading
  deriving Repr

/-- A step of a construction. -/
abbrev Build := StateM Construction

namespace Standing

def isOneOf (names : List String) (s : Standing) : Bool :=
  s.vocabulary == .html && names.contains s.name

def isNamed (name : String) (s : Standing) : Bool :=
  s.vocabulary == .html && s.name == name

/-- The elements of the mathematical vocabulary that hold ordinary text. -/
def holdsMathText (s : Standing) : Bool :=
  s.vocabulary == .math && ["mi", "mo", "mn", "ms", "mtext"].contains s.name

/-- The elements of the graphical vocabulary that hold ordinary markup. -/
def holdsHtml (s : Standing) : Bool :=
  s.vocabulary == .svg && ["foreignObject", "desc", "title"].contains s.name

end Standing

/-! ## Groups of elements -/

/-- Elements that formatting and unclosed elements do not reach across. -/
def specialNames : List String :=
  ["address", "applet", "area", "article", "aside", "base", "basefont", "bgsound", "blockquote",
    "body", "br", "button", "caption", "center", "col", "colgroup", "dd", "details", "dir", "div",
    "dl", "dt", "embed", "fieldset", "figcaption", "figure", "footer", "form", "frame", "frameset",
    "h1", "h2", "h3", "h4", "h5", "h6", "head", "header", "hgroup", "hr", "html", "iframe", "img",
    "input", "isindex", "li", "link", "listing", "main", "marquee", "menu", "meta", "nav",
    "noembed", "noframes", "noscript", "object", "ol", "p", "param", "plaintext", "pre", "script",
    "section", "select", "source", "style", "summary", "table", "tbody", "td", "template",
    "textarea", "tfoot", "th", "thead", "title", "tr", "track", "ul", "wbr", "xmp"]

def headingNames : List String := ["h1", "h2", "h3", "h4", "h5", "h6"]

/-- The elements whose end tag may be left out. -/
def impliedNames : List String :=
  ["dd", "dt", "li", "option", "optgroup", "p", "rb", "rp", "rt", "rtc"]

/-- The elements that a template closes at its end. -/
def templateImpliedNames : List String :=
  impliedNames ++ ["caption", "colgroup", "tbody", "td", "tfoot", "th", "thead", "tr"]

/-- How far an end tag reaches. -/
inductive Scope where
  | ordinary
  | list
  | button
  | table
  | select
  deriving DecidableEq, Repr

/-- Whether an element bounds a scope. -/
def Scope.isBound (scope : Scope) (s : Standing) : Bool :=
  let ordinary := s.holdsMathText || s.holdsHtml ||
    s.isOneOf ["applet", "caption", "html", "table", "td", "th", "marquee", "object", "template"]
  match scope with
  | .ordinary => ordinary
  | .list => ordinary || s.isOneOf ["ol", "ul"]
  | .button => ordinary || s.isNamed "button"
  | .table => s.isOneOf ["html", "table", "template"]
  | .select => !s.isOneOf ["optgroup", "option"]

/-- Whether an element that `p` accepts is open within a scope. -/
def Scope.reaches (scope : Scope) (p : Standing → Bool) : List Standing → Bool
  | [] => false
  | s :: rest => p s || (!scope.isBound s && scope.reaches p rest)

namespace Build

/-! ## Open elements -/

def setMode (mode : Mode) : Build Unit := modify ({ · with mode })

def openElements : Build (List Standing) := return (← get).openElements

def setOpen (openElements : List Standing) : Build Unit := modify ({ · with openElements })

/-- The innermost open element. -/
def current : Build (Option Standing) := return (← openElements).head?

def currentIs (p : Standing → Bool) : Build Bool := return ((← current).map p).getD false

def pop : Build Unit := do setOpen ((← openElements).drop 1)

/-- The outermost open element. -/
def outermost : Build Nat := return ((← openElements).getLast?.map Standing.id).getD 0

def inScope (scope : Scope) (p : Standing → Bool) : Build Bool :=
  return scope.reaches p (← openElements)

def inScopeNamed (scope : Scope) (name : String) : Build Bool :=
  inScope scope (Standing.isNamed name)

def inTemplate : Build Bool := return (← openElements).any (Standing.isNamed "template")

/-- Closes elements up to and with the first that `p` accepts. -/
def popThrough (p : Standing → Bool) : Build Unit := do
  setOpen (((← openElements).dropWhile (!p ·)).drop 1)

def popThroughNamed (name : String) : Build Unit := popThrough (Standing.isNamed name)

/-- Closes elements until the innermost is one of `names`. -/
def popTo (names : List String) : Build Unit := do
  setOpen ((← openElements).dropWhile (!Standing.isOneOf names ·))

/-- Closes elements whose end tag may be left out, up to one named `except`. -/
def closeImplied (except : String) : Build Unit := do
  setOpen ((← openElements).dropWhile fun s => s.isOneOf impliedNames && s.name != except)

/-- Closes a paragraph. -/
def closeParagraph : Build Unit := do
  closeImplied "p"
  popThroughNamed "p"

def closeParagraphInScope : Build Unit := do
  if ← inScopeNamed .button "p" then closeParagraph

def removeOpen (id : Nat) : Build Unit := do
  setOpen ((← openElements).eraseP (·.id = id))

/-! ## Placing nodes -/

/-- Where a node goes. -/
inductive Spot where
  | inside (id : Nat)
  | before (id : Nat)

def updateDraft (f : Draft → Draft) : Build Unit :=
  modify fun s => { s with draft := f s.draft }

/-- The inside of an element: for a template the fragment in it. -/
def insideOf (s : Standing) : Build Spot := do
  if s.isNamed "template" then
    return .inside (((← get).draft.children s.id)[0]?.getD s.id)
  else return .inside s.id

/-- The place in front of the innermost table, or inside a template that is nearer. -/
def fosterSpot : List Standing → Build Spot
  | [] => return .inside 0
  | s :: rest => do
      if s.isNamed "template" then insideOf s
      else if s.isNamed "table" then
        if ((← get).draft.parent? s.id).isSome then return .before s.id
        else return .inside ((rest.head?.map Standing.id).getD 0)
      else if rest.isEmpty then return .inside s.id
      else fosterSpot rest

/-- The place for a node that belongs inside `target`. -/
def spotFor (target : Standing) : Build Spot := do
  let fosters := (← get).fostering && target.isOneOf ["table", "tbody", "tfoot", "thead", "tr"]
  if fosters then fosterSpot (← openElements) else insideOf target

/-- The place for the next node. -/
def spot : Build Spot := do
  match ← current with
  | some s => spotFor s
  | none => return .inside 0

def place (spot : Spot) (id : Nat) : Build Unit :=
  match spot with
  | .inside parent => updateDraft (·.append parent id)
  | .before sibling => updateDraft (·.insertBefore sibling id)

def putChar (c : Char) : Build Unit := do
  match ← spot with
  | .inside parent => updateDraft (·.appendChar parent c)
  | .before sibling => updateDraft (·.insertCharBefore sibling c)

/-- A new node that stands nowhere yet. -/
def create (content : Content) : Build Nat :=
  modifyGet fun s =>
    let (id, draft) := s.draft.add content
    (id, { s with draft })

def putComment (text : String) : Build Unit := do
  let id ← create (.comment text)
  place (← spot) id

/-- Puts a comment at the end of a given node. -/
def putCommentIn (parent : Nat) (text : String) : Build Unit := do
  let id ← create (.comment text)
  updateDraft (·.append parent id)

/-- A new element; a template begins with the fragment that holds its content. -/
def createElement (vocabulary : Vocabulary) (tag : Tag) : Build Nat := do
  let id ← create (.element vocabulary tag.name tag.attributes)
  if vocabulary == .html && tag.name == "template" then
    let content ← create .fragment
    updateDraft (·.append id content)
  return id

def push (s : Standing) : Build Unit := do setOpen (s :: (← openElements))

/-- Puts a new element in its place and opens it. -/
def openForeign (vocabulary : Vocabulary) (tag : Tag) : Build Nat := do
  let id ← createElement vocabulary tag
  place (← spot) id
  push ⟨id, tag.name, vocabulary⟩
  return id

def openElement (tag : Tag) : Build Nat := openForeign .html tag

def openTag (tag : Tag) : Build Unit := do let _ ← openElement tag

/-- Puts in an element that has no content. -/
def putElement (tag : Tag) : Build Unit := do
  openTag tag
  pop

def notFrameset : Build Unit := modify ({ · with framesetOk := false })

def skipLineFeed : Build Unit := modify ({ · with skipLineFeed := true })

/-- Opens an element whose content is read in its own way. -/
def openText (tag : Tag) (reading : Reading) : Build Unit := do
  openTag tag
  modify fun s => { s with returnMode := s.mode, mode := .text, reading }

/-- Opens an element that holds raw text. -/
def openRaw (tag : Tag) : Build Unit := openText tag (.inside tag.name false)

/-! ## Formatting elements -/

def mark (m : Mark) : Build Unit := modify fun s => { s with formatting := m :: s.formatting }

/-- Forgets the formatting elements up to the last edge. -/
def clearToEdge : Build Unit :=
  modify fun s => { s with formatting := (s.formatting.dropWhile (· ≠ .edge)).drop 1 }

def removeMark (id : Nat) : Build Unit :=
  modify fun s =>
    { s with formatting := s.formatting.filter fun
        | .element other _ => other != id
        | .edge => true }

/-- The formatting elements since the last edge. -/
def sinceEdge (marks : List Mark) : List (Nat × Tag) :=
  (marks.takeWhile (· ≠ .edge)).filterMap fun
    | .element id tag => some (id, tag)
    | .edge => none

/-- Opens a formatting element.  Of equal elements at most three are kept. -/
def openFormatting (tag : Tag) : Build Unit := do
  let tag := { tag with selfClosing := false }
  let equals := (sinceEdge (← get).formatting).filter (·.2 = tag)
  if 3 ≤ equals.length then
    match equals.getLast? with
    | some (id, _) => removeMark id
    | none => pure ()
  let id ← openElement tag
  mark (.element id tag)

/-- Opens the marked elements once more, the earliest first, and gives their new entries with the
last one first. -/
def reopen : List (Nat × Tag) → Build (List Mark)
  | [] => return []
  | (_, tag) :: earlier => do
      let marks ← reopen earlier
      let id ← openElement tag
      return .element id tag :: marks

/-- Opens again the formatting elements that have been cut off. -/
def reconstruct : Build Unit := do
  let marks := (← get).formatting
  let stands := (← openElements).map Standing.id
  let cut := marks.takeWhile fun
    | .element id _ => !stands.contains id
    | .edge => false
  unless cut.isEmpty do
    let marks' ← reopen (sinceEdge cut)
    modify fun s => { s with formatting := marks' ++ marks.drop cut.length }

/-- Closes an element by its end tag inside a body: nothing happens when a special element stands
in between. -/
def closeInBody (name : String) : Build Unit := do
  let between := (← openElements).takeWhile fun s =>
    !s.isNamed name && !s.isOneOf specialNames
  let here := (← openElements).drop between.length
  if (here.head?.map (Standing.isNamed name)).getD false then
    setOpen (here.drop 1)

/-- Replaces an entry among the open elements. -/
def replaceOpen (id : Nat) (s : Standing) : Build Unit := do
  setOpen ((← openElements).map fun old => if old.id = id then s else old)

def replaceMark (id new : Nat) (tag : Tag) : Build Unit :=
  modify fun s =>
    { s with formatting := s.formatting.map fun
        | .element other t => if other = id then .element new tag else .element other t
        | .edge => .edge }

/-- Where the new entry goes among the formatting elements. -/
inductive Bookmark where
  | at (id : Nat)
  | after (id : Nat)

/-- The elements between the furthest block and the formatting element, outwards: each is copied
around what has been moved so far, and those that are not formatting, or lie too far out, are only
closed.  Gives what was moved last, and the bookmark. -/
def moveInner (block : Nat) (last : Nat) (bookmark : Bookmark) (count : Nat) :
    List Standing → Build (Nat × Bookmark)
  | [] => return (last, bookmark)
  | s :: outer => do
      match (sinceEdge ((← get).formatting.filter (· ≠ .edge))).find? (·.1 = s.id) with
      | none =>
          removeOpen s.id
          moveInner block last bookmark (count + 1) outer
      | some (_, tag) =>
          if 3 < count then
            removeMark s.id
            removeOpen s.id
            moveInner block last bookmark (count + 1) outer
          else
            let id ← createElement .html tag
            replaceOpen s.id ⟨id, tag.name, .html⟩
            replaceMark s.id id tag
            updateDraft (·.append id last)
            moveInner block id (if last = block then .after id else bookmark) (count + 1) outer

/-- Puts a new entry at a bookmark, and drops the entry of the old element. -/
def settleMark (bookmark : Bookmark) (old new : Nat) (tag : Tag) : Build Unit := do
  match bookmark with
  | .at id => replaceMark id new tag
  | .after id =>
      modify fun s =>
        { s with formatting := s.formatting.flatMap fun
            | .element other t =>
                if other = id then [.element new tag, .element other t] else [.element other t]
            | .edge => [.edge] }
      removeMark old

/-- Closes the formatting element of a name once: content that it shares with a block inside it is
split between the two.  The result tells that there may be more to do. -/
def adoptOnce (name : String) : Build Bool := do
  match (sinceEdge (← get).formatting).find? (·.2.name = name) with
  | none => closeInBody name; return false
  | some (id, tag) =>
      let stands ← openElements
      let inner := stands.takeWhile (·.id ≠ id)
      let outer := (stands.drop inner.length).drop 1
      if inner.length = stands.length then
        removeMark id
        return false
      if !(← inScope .ordinary (·.id = id)) then return false
      -- The furthest block is the outermost special element inside the formatting element.
      let nearer := inner.reverse.dropWhile (!Standing.isOneOf specialNames ·)
      match nearer with
      | [] =>
          setOpen outer
          removeMark id
          return false
      | block :: _ =>
          let between := inner.drop nearer.length
          let (last, bookmark) ← moveInner block.id block.id (.at id) 1 between
          updateDraft (·.detach last)
          match outer.head? with
          | some ancestor => place (← spotFor ancestor) last
          | none => pure ()
          let copy ← createElement .html tag
          updateDraft fun draft => (draft.moveChildren block.id copy).append block.id copy
          settleMark bookmark id copy tag
          removeOpen id
          setOpen ((← openElements).flatMap fun s =>
            if s.id = block.id then [⟨copy, tag.name, .html⟩, s] else [s])
          return true

/-- Closes the formatting elements of a name, at most `count` times. -/
def adoptTimes (name : String) : Nat → Build Unit
  | 0 => pure ()
  | count + 1 => do if ← adoptOnce name then adoptTimes name count

/-- Closes a formatting element by its end tag. -/
def adopt (name : String) : Build Unit := do
  let marked := (sinceEdge ((← get).formatting.filter (· ≠ .edge))).map (·.1)
  if ← currentIs fun s => s.isNamed name && !marked.contains s.id then pop
  else adoptTimes name 8

/-- The mode that fits the open elements. -/
def fittingMode (s : Construction) : List Standing → Mode
  | [] => .inBody
  | e :: outer =>
      let last := outer.isEmpty
      let name := if last && s.isFragment then "body" else e.name
      if e.vocabulary != .html then fittingMode s outer
      else match name with
      | "select" =>
          match outer.find? (Standing.isOneOf ["template", "table"]) with
          | some found => if found.isNamed "table" then .inSelectInTable else .inSelect
          | none => .inSelect
      | "td" => .inCell
      | "th" => .inCell
      | "tr" => .inRow
      | "tbody" => .inTableBody
      | "thead" => .inTableBody
      | "tfoot" => .inTableBody
      | "caption" => .inCaption
      | "colgroup" => .inColumns
      | "table" => .inTable
      | "template" => s.templateModes.head?.getD .inBody
      | "head" => .inHead
      | "body" => .inBody
      | "frameset" => .inFrameset
      | "html" => if s.head.isSome then .afterHead else .beforeHead
      | _ => fittingMode s outer

def resetMode : Build Unit :=
  modify fun s => { s with mode := fittingMode s s.openElements }

end Build

end Harvest.Html
