import Harvest.Html.Insertion.Table

/-!
# Reading HTML

From the text of a page, or of a fragment of one, to a document.  Any text is read as some
document.  The tokens are read one after the other, each by the rules of the part of the document
that it stands in.
-/

namespace Harvest.Html

namespace Build

/-- Reads a token before the document begins. -/
def inInitial (rules : Rules) (token : Token) : Build Unit := do
  match token with
  | .comment text => putCommentIn 0 text
  | .doctype doctype =>
      let id ← create (.doctype doctype.name)
      updateDraft (·.append 0 id)
      modify ({ · with mode := .beforeHtml, tablesInParagraphs := doctype.isOld })
  | _ =>
      let isBlank := match token with
        | .char c => Text.isAsciiBlank c
        | _ => false
      unless isBlank do
        modify ({ · with tablesInParagraphs := true })
        again rules .beforeHtml token

/-- Opens the root element. -/
def openRoot (tag : Tag) : Build Unit := do
  let id ← create (.element .html tag.name tag.attributes)
  updateDraft (·.append 0 id)
  push ⟨id, tag.name, .html⟩

/-- Whether a token is passed over where an element of the frame of a document is expected: blanks
and stray end tags. -/
def isIdle (token : Token) : Bool :=
  match token with
  | .char c => Text.isAsciiBlank c
  | .stop name => !(["head", "body", "html", "br"].contains name)
  | _ => false

def beforeHtml (rules : Rules) (token : Token) : Build Unit := do
  match token with
  | .comment text => putCommentIn 0 text
  | _ =>
      match token with
      | .start ⟨"html", attributes, _⟩ =>
          openRoot ⟨"html", attributes, false⟩
          setMode .beforeHead
      | _ =>
          unless isIdle token do
            openRoot (.bare "html")
            again rules .beforeHead token

/-- Opens the head. -/
def openHead (tag : Tag) : Build Unit := do
  let id ← openElement tag
  modify ({ · with head := some id })

def beforeHead (rules : Rules) (token : Token) : Build Unit := do
  match token with
  | .comment text => putComment text
  | .start tag =>
      match tag.name with
      | "html" => rules (some .inBody) token
      | "head" =>
          openHead tag
          setMode .inHead
      | _ =>
          openHead (.bare "head")
          again rules .inHead token
  | _ =>
      unless isIdle token do
        openHead (.bare "head")
        again rules .inHead token

/-- Closes the innermost template. -/
def closeTemplate : Build Unit := do
  if ← inTemplate then
    setOpen ((← openElements).dropWhile (Standing.isOneOf templateImpliedNames))
    popThroughNamed "template"
    clearToEdge
    modify fun s => { s with templateModes := s.templateModes.drop 1 }
    resetMode

/-- Whether a template asks to become the content of the element around it, which is kept apart
from documents. -/
def asksForShadow (tag : Tag) : Bool :=
  (tag.attribute? "shadowrootmode").any fun mode => mode == "open" || mode == "close"

/-- Opens a template.  One that asks to become the content of the element around it leaves no
element: what stands in it goes to that element, unless that is the root of a document. -/
def openTemplate (tag : Tag) : Build Unit := do
  mark .edge
  notFrameset
  modify fun s =>
    { s with mode := .inTemplate, templateModes := .inTemplate :: s.templateModes }
  let isInner := (← get).isFragment || 1 < (← openElements).length
  unless asksForShadow tag && isInner do openTag tag

def inHead (rules : Rules) (token : Token) : Build Unit := do
  let leave : Build Unit := do
    pop
    again rules .afterHead token
  match token with
  | .char c => if Text.isAsciiBlank c then putChar c else leave
  | .comment text => putComment text
  | .doctype _ | .fault => pure ()
  | .finish => leave
  | .start tag =>
      match tag.name with
      | "html" => rules (some .inBody) token
      | "base" | "basefont" | "bgsound" | "link" | "meta" => putElement tag
      | "title" => openText tag (.inside "title" true)
      | "noframes" | "style" | "noscript" => openRaw tag
      | "script" => openText tag .script
      | "template" => openTemplate tag
      | "head" => pure ()
      | _ => leave
  | .stop name =>
      match name with
      | "head" =>
          pop
          setMode .afterHead
      | "body" | "html" | "br" => leave
      | "template" => closeTemplate
      | _ => pure ()

def afterHead (rules : Rules) (token : Token) : Build Unit := do
  let openBody : Build Unit := do
    openTag (.bare "body")
    again rules .inBody token
  match token with
  | .char c => if Text.isAsciiBlank c then putChar c else openBody
  | .comment text => putComment text
  | .doctype _ | .fault => pure ()
  | .finish => openBody
  | .start tag =>
      match tag.name with
      | "html" => rules (some .inBody) token
      | "body" =>
          openTag tag
          notFrameset
          setMode .inBody
      | "frameset" =>
          openTag tag
          setMode .inFrameset
      | "head" => pure ()
      | name =>
          if headNames.contains name then
            match (← get).head with
            | none => pure ()
            | some id =>
                push ⟨id, "head", .html⟩
                rules (some .inHead) token
                removeOpen id
          else openBody
  | .stop name =>
      match name with
      | "template" => rules (some .inHead) token
      | "body" | "html" | "br" => openBody
      | _ => pure ()

/-- Inside an element whose content is text. -/
def inText (rules : Rules) (token : Token) : Build Unit := do
  let close : Build Unit := do
    pop
    modify fun s => { s with mode := s.returnMode, reading := .markup }
  match token with
  | .char c => putChar c
  | .finish =>
      close
      rules none token
  | .stop _ => close
  | _ => pure ()

/-- Directly inside a template. -/
def inTemplateContent (rules : Rules) (token : Token) : Build Unit := do
  let switch (mode : Mode) : Build Unit := do
    modify fun s => { s with templateModes := mode :: s.templateModes.drop 1 }
    again rules mode token
  match token with
  | .char _ => rules (some .inBody) token
  | .comment _ => rules (some .inBody) token
  | .doctype _ | .fault => pure ()
  | .finish =>
      if ← inTemplate then
        popThroughNamed "template"
        clearToEdge
        modify fun s => { s with templateModes := s.templateModes.drop 1 }
        resetMode
        rules none token
  | .start tag =>
      if headNames.contains tag.name then rules (some .inHead) token
      else match tag.name with
      | "caption" | "colgroup" | "tbody" | "tfoot" | "thead" => switch .inTable
      | "col" => switch .inColumns
      | "tr" => switch .inTableBody
      | "td" | "th" => switch .inRow
      | _ => switch .inBody
  | .stop name => if name == "template" then rules (some .inHead) token

def afterBody (rules : Rules) (token : Token) : Build Unit := do
  match token with
  | .char c =>
      if Text.isAsciiBlank c then rules (some .inBody) token else again rules .inBody token
  | .comment text => putCommentIn (← outermost) text
  | .doctype _ | .fault => pure ()
  | .finish => pure ()
  | .start tag =>
      if tag.name == "html" then rules (some .inBody) token else again rules .inBody token
  | .stop name =>
      if name == "html" then unless (← get).isFragment do setMode .afterAfterBody
      else again rules .inBody token

def afterAfterBody (rules : Rules) (token : Token) : Build Unit := do
  match token with
  | .char c =>
      if Text.isAsciiBlank c then rules (some .inBody) token else again rules .inBody token
  | .comment text => putCommentIn 0 text
  | .doctype _ | .fault => pure ()
  | .finish => pure ()
  | .start tag =>
      if tag.name == "html" then rules (some .inBody) token else again rules .inBody token
  | .stop _ => again rules .inBody token

/-- Inside a set of frames, and after it. -/
def inFrameset (rules : Rules) (token : Token) : Build Unit := do
  let inside := (← get).mode == .inFrameset
  match token with
  | .char c => if Text.isAsciiBlank c then putChar c
  | .comment text => putComment text
  | .start tag =>
      match tag.name with
      | "html" => rules (some .inBody) token
      | "frameset" => if inside then openTag tag
      | "frame" => if inside then putElement tag
      | "noframes" => rules (some .inHead) token
      | _ => pure ()
  | .stop name =>
      if inside then
        if name == "frameset" && 1 < (← openElements).length then
          pop
          if !(← get).isFragment && !(← currentIs (Standing.isNamed "frameset")) then
            setMode .afterFrameset
      else if name == "html" then setMode .afterAfterFrameset
  | _ => pure ()

def afterAfterFrameset (rules : Rules) (token : Token) : Build Unit := do
  match token with
  | .char c => if Text.isAsciiBlank c then rules (some .inBody) token
  | .comment text => putCommentIn 0 text
  | .start tag =>
      match tag.name with
      | "html" => rules (some .inBody) token
      | "noframes" => rules (some .inHead) token
      | _ => pure ()
  | _ => pure ()

/-- The rules of a mode. -/
def ofMode (mode : Mode) : Rules → Token → Build Unit :=
  match mode with
  | .initial => inInitial
  | .beforeHtml => beforeHtml
  | .beforeHead => beforeHead
  | .inHead => inHead
  | .afterHead => afterHead
  | .inBody => inBody
  | .text => inText
  | .inTable => inTable
  | .inTableText => inTableText
  | .inCaption => inCaption
  | .inColumns => inColumns
  | .inTableBody => inTableBody
  | .inRow => inRow
  | .inCell => inCell
  | .inSelect => inSelect
  | .inSelectInTable => inSelectInTable
  | .inTemplate => inTemplateContent
  | .afterBody => afterBody
  | .inFrameset => inFrameset
  | .afterFrameset => inFrameset
  | .afterAfterBody => afterAfterBody
  | .afterAfterFrameset => afterAfterFrameset

/-- Reads a token by the rules of a mode, or by those that the state asks for; `fuel` bounds how
often the token is handed on. -/
def step : Nat → Rules
  | 0, _, _ => pure ()
  | fuel + 1, some mode, token => ofMode mode (step fuel) token
  | fuel + 1, none, token => do
      let s ← get
      if isForeign s.openElements token then inForeign (step fuel) token
      else ofMode s.mode (step fuel) token

/-- Whether a token says nothing: a fault, or a doctype that does not begin the document. -/
def isMute (mode : Mode) (token : Token) : Bool :=
  match token with
  | .fault => true
  | .doctype _ => mode != .initial
  | _ => false

/-- Reads a token.  It is handed on a few times at most, and once for each template that the end of
the text closes.  A line feed is dropped only if no other token stands in front of it, and not even
one that says nothing. -/
def readToken (token : Token) : Build Unit := do
  let s ← get
  set { s with skipLineFeed := false }
  unless isMute s.mode token || (s.skipLineFeed && token == .char '\n') do
    step (16 + 4 * s.openElements.length) none token

/-- Reads a text to its end; `fuel` bounds its length.  A script ends a portion of the text, and
each portion may begin with a byte order mark. -/
def readText : Nat → List Char → Build Unit
  | 0, _ => readToken .finish
  | _, [] => readToken .finish
  | fuel + 1, cs => do
      let s ← get
      let foreign := (s.openElements.head?.map (·.vocabulary != .html)).getD false
      let (tokens, rest) := s.reading.next foreign cs
      tokens.forM readToken
      readText fuel (if s.reading = .script then Reading.dropByteOrderMark rest else rest)

end Build

namespace Construction

/-- A construction before its first token. -/
def begin (root : Content) (isFragment : Bool) : Construction where
  draft := .ofRoot root
  isFragment := isFragment
  openElements := []
  formatting := []
  mode := .initial
  returnMode := .initial
  templateModes := []
  tableText := []
  head := none
  form := none
  framesetOk := true
  tablesInParagraphs := false
  fostering := false
  skipLineFeed := false
  reading := .markup

end Construction

/-- Runs a reading of a text. -/
def build (text : String) (root : Content) (prepare : Build Unit) : Document :=
  let cs := Reading.unixLines (Reading.dropByteOrderMark text.toList)
  let run : Build Unit := do
    prepare
    Build.readText (cs.length + 1) cs
  (run.run (.begin root (root == .fragment))).2.draft.toDocument

end Html

namespace Document

/-- The document that the text of a page describes. -/
def ofHtml (text : String) : Document := Html.build text .document (pure ())

/-- The document that a fragment of a body describes: its nodes stand in an element `html`. -/
def ofHtmlFragment (text : String) : Document :=
  Html.build text .fragment do
    Html.Build.openRoot (.bare "html")
    Html.Build.setMode .inBody

end Document

end Harvest
