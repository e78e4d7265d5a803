import Harvest.Html.Construction

/-!
# Tokens inside a body

What the tokens do that are read inside a body or a list of choices, and inside elements of another
vocabulary.  `Rules` is how a rule hands a token on, to the rules of a given mode or, without one,
back to where it came from after the mode has changed.
-/

namespace Harvest.Html

/-- Applies the rules of a mode, or those that the state of the construction asks for. -/
abbrev Rules := Option Mode → Token → Build Unit

namespace Build

/-- Changes the mode and reads the token again. -/
def again (rules : Rules) (mode : Mode) (token : Token) : Build Unit := do
  setMode mode
  rules none token

/-- The elements that belong to the head of a document. -/
def headNames : List String :=
  ["base", "basefont", "bgsound", "link", "meta", "noframes", "script", "style", "template",
    "title"]

/-- The elements that close an open paragraph where they begin. -/
def blockNames : List String :=
  ["address", "article", "aside", "blockquote", "center", "details", "dialog", "dir", "div", "dl",
    "fieldset", "figcaption", "figure", "footer", "header", "hgroup", "main", "menu", "nav", "ol",
    "p", "search", "section", "summary", "ul"]

/-- The elements that are closed with everything in them by their end tag. -/
def closableNames : List String :=
  ["address", "article", "aside", "blockquote", "button", "center", "details", "dialog", "dir",
    "div", "dl", "fieldset", "figcaption", "figure", "footer", "header", "hgroup", "listing",
    "main", "menu", "nav", "ol", "pre", "search", "section", "summary", "ul"]

def formattingNames : List String :=
  ["b", "big", "code", "em", "font", "i", "s", "small", "strike", "strong", "tt", "u"]

/-- The elements of tables that have no place in a body of their own. -/
def tablePartNames : List String :=
  ["caption", "col", "colgroup", "frame", "head", "tbody", "td", "tfoot", "th", "thead", "tr"]

/-- The items of a list that the next item closes. -/
def closeItem (names : List String) : Build Unit := do
  let reach := (← openElements).dropWhile fun s =>
    !s.isOneOf names && (!s.isOneOf specialNames || s.isOneOf ["address", "div", "p"])
  match reach.head? with
  | some s =>
      if s.isOneOf names then
        closeImplied s.name
        popThroughNamed s.name
  | none => pure ()

/-- Whether an input field is hidden. -/
def isHiddenInput (tag : Tag) : Bool :=
  tag.name == "input" && (tag.attribute? "type").any fun v => v.map Char.toLower == "hidden"

/-- Names of the graphical vocabulary that hold capital letters. -/
def graphicNames : List String :=
  ["altGlyph", "altGlyphDef", "altGlyphItem", "animateColor", "animateMotion", "animateTransform",
    "clipPath", "feBlend", "feColorMatrix", "feComponentTransfer", "feComposite",
    "feConvolveMatrix", "feDiffuseLighting", "feDisplacementMap", "feDistantLight", "feDropShadow",
    "feFlood", "feFuncA", "feFuncB", "feFuncG", "feFuncR", "feGaussianBlur", "feImage", "feMerge",
    "feMergeNode", "feMorphology", "feOffset", "fePointLight", "feSpecularLighting", "feSpotLight",
    "feTile", "feTurbulence", "foreignObject", "glyphRef", "linearGradient", "radialGradient",
    "textPath"]

/-- Attributes of the graphical vocabulary that hold capital letters. -/
def graphicAttributes : List String :=
  ["attributeName", "attributeType", "baseFrequency", "baseProfile", "calcMode", "clipPathUnits",
    "diffuseConstant", "edgeMode", "filterUnits", "glyphRef", "gradientTransform",
    "gradientUnits", "kernelMatrix", "kernelUnitLength", "keyPoints", "keySplines", "keyTimes",
    "lengthAdjust", "limitingConeAngle", "markerHeight", "markerUnits", "markerWidth",
    "maskContentUnits", "maskUnits", "numOctaves", "pathLength", "patternContentUnits",
    "patternTransform", "patternUnits", "pointsAtX", "pointsAtY", "pointsAtZ", "preserveAlpha",
    "preserveAspectRatio", "primitiveUnits", "refX", "refY", "repeatCount", "repeatDur",
    "requiredExtensions", "requiredFeatures", "specularConstant", "specularExponent",
    "spreadMethod", "startOffset", "stdDeviation", "stitchTiles", "surfaceScale",
    "systemLanguage", "tableValues", "targetX", "targetY", "textLength", "viewBox", "viewTarget",
    "xChannelSelector", "yChannelSelector", "zoomAndPan"]

/-- The spelling of a name among some that hold capital letters. -/
def spelling (names : List String) (name : String) : String :=
  (names.find? (·.map Char.toLower == name)).getD name

/-- Attributes that other vocabularies know by a qualifier, which stands in front of a colon. -/
def qualifiedAttributes : List (String × String × String) :=
  [("xlink:actuate", "xlink", "actuate"), ("xlink:arcrole", "xlink", "arcrole"),
    ("xlink:href", "xlink", "href"), ("xlink:role", "xlink", "role"),
    ("xlink:show", "xlink", "show"), ("xlink:title", "xlink", "title"),
    ("xlink:type", "xlink", "type"), ("xml:base", "xml", "base"), ("xml:lang", "xml", "lang"),
    ("xml:space", "xml", "space"), ("xmlns", "", "xmlns"), ("xmlns:xlink", "xmlns", "xlink")]

/-- An attribute of another vocabulary, with its qualifier apart from its name. -/
def qualified (a : Attribute) : Attribute :=
  match qualifiedAttributes.lookup a.name with
  | some (qualifier, name) => ⟨name, a.value, some qualifier⟩
  | none => a

/-- A start tag with the spelling of its vocabulary. -/
def foreignTag (vocabulary : Vocabulary) (tag : Tag) : Tag :=
  let (elements, attributes) := match vocabulary with
    | .html => ([], [])
    | .math => ([], ["definitionURL"])
    | .svg => (graphicNames, graphicAttributes)
  { tag with
    name := spelling elements tag.name
    attributes := Attribute.sort (tag.attributes.map fun a =>
      qualified { a with name := spelling attributes a.name }) }

/-- Opens the root of another vocabulary.  Formatting elements that have been cut off stay so. -/
def enterForeign (vocabulary : Vocabulary) (tag : Tag) : Build Unit := do
  let _ ← openForeign vocabulary (foreignTag vocabulary tag)
  if tag.selfClosing then pop

/-- Closes an `a` that is still open where another begins. -/
def closeOpenLink : Build Unit := do
  match (sinceEdge (← get).formatting).find? (·.2.name = "a") with
  | none => pure ()
  | some (id, _) =>
      adopt "a"
      removeMark id
      removeOpen id

/-- A start tag of an ordinary element inside a body. -/
def ordinaryStart (rules : Rules) (tag : Tag) : Build Unit := do
  let name := tag.name
  if formattingNames.contains name then
    reconstruct
    openFormatting tag
  else if ["area", "br", "embed", "img", "keygen", "wbr", "input"].contains name then
    reconstruct
    putElement tag
    unless isHiddenInput tag do notFrameset
  else if ["param", "source", "track"].contains name then putElement tag
  else if ["applet", "marquee", "object"].contains name then
    reconstruct
    openTag tag
    mark .edge
    notFrameset
  else if ["optgroup", "option"].contains name then
    if ← currentIs (Standing.isNamed "option") then pop
    reconstruct
    openTag tag
  else if ["rb", "rtc"].contains name then
    if ← inScopeNamed .ordinary "ruby" then closeImplied ""
    openTag tag
  else if ["rp", "rt"].contains name then
    if ← inScopeNamed .ordinary "ruby" then closeImplied "rtc"
    openTag tag
  else match name with
  | "a" =>
      closeOpenLink
      reconstruct
      openFormatting tag
  | "nobr" =>
      reconstruct
      if ← inScopeNamed .ordinary "nobr" then
        adopt "nobr"
        reconstruct
      openFormatting tag
  | "button" =>
      if ← inScopeNamed .ordinary "button" then
        closeImplied ""
        popThroughNamed "button"
      reconstruct
      openTag tag
      notFrameset
  | "textarea" =>
      skipLineFeed
      notFrameset
      openText tag (.inside "textarea" true)
  | "iframe" =>
      notFrameset
      openRaw tag
  | "noembed" => openRaw tag
  | "noscript" => openRaw tag
  | "select" =>
      reconstruct
      openTag tag
      notFrameset
      let inTable := [Mode.inTable, .inCaption, .inTableBody, .inRow, .inCell].contains
        (← get).mode
      setMode (if inTable then .inSelectInTable else .inSelect)
  | "math" => enterForeign .math tag
  | "svg" => enterForeign .svg tag
  | "image" => rules (some .inBody) (.start { tag with name := "img" })
  | _ =>
      unless tablePartNames.contains name do
        reconstruct
        openTag tag

/-- A start tag inside a body. -/
def bodyStart (rules : Rules) (tag : Tag) : Build Unit := do
  let name := tag.name
  if headNames.contains name then rules (some .inHead) (.start tag)
  else if blockNames.contains name then
    closeParagraphInScope
    openTag tag
  else if headingNames.contains name then
    closeParagraphInScope
    if ← currentIs (Standing.isOneOf headingNames) then pop
    openTag tag
  else if ["li", "dd", "dt"].contains name then
    notFrameset
    closeItem (if name == "li" then ["li"] else ["dd", "dt"])
    closeParagraphInScope
    openTag tag
  else match name with
  | "html" =>
      unless ← inTemplate do
        let root ← outermost
        updateDraft (·.addAttributes root tag.attributes)
  | "body" =>
      let stands ← openElements
      match stands.reverse[1]? with
      | some body =>
          if body.isNamed "body" && !(← inTemplate) then
            notFrameset
            updateDraft (·.addAttributes body.id tag.attributes)
      | none => pure ()
  | "frameset" =>
      let stands ← openElements
      match stands.reverse[1]? with
      | some body =>
          if body.isNamed "body" && (← get).framesetOk then
            updateDraft (·.detach body.id)
            setOpen (stands.drop (stands.length - 1))
            openTag tag
            setMode .inFrameset
      | none => pure ()
  | "pre" | "listing" =>
      closeParagraphInScope
      openTag tag
      skipLineFeed
      notFrameset
  | "form" =>
      let template ← inTemplate
      if template || (← get).form.isNone then
        closeParagraphInScope
        let id ← openElement tag
        unless template do modify ({ · with form := some id })
  | "plaintext" =>
      closeParagraphInScope
      openTag tag
      modify ({ · with reading := .plain })
  | "table" =>
      unless (← get).tablesInParagraphs do closeParagraphInScope
      openTag tag
      notFrameset
      setMode .inTable
  | "hr" =>
      closeParagraphInScope
      putElement tag
      notFrameset
  | "xmp" =>
      closeParagraphInScope
      reconstruct
      notFrameset
      openRaw tag
  | _ => ordinaryStart rules tag

/-- The end tag of a form. -/
def closeForm : Build Unit := do
  if ← inTemplate then
    if ← inScopeNamed .ordinary "form" then
      closeImplied ""
      popThroughNamed "form"
  else
    let form := (← get).form
    modify ({ · with form := none })
    match form with
    | none => pure ()
    | some id =>
        if ← inScope .ordinary (·.id = id) then
          closeImplied ""
          removeOpen id

/-- An end tag inside a body. -/
def bodyStop (rules : Rules) (name : String) : Build Unit := do
  if closableNames.contains name then
    if ← inScopeNamed .ordinary name then
      closeImplied ""
      popThroughNamed name
  else if headingNames.contains name then
    if ← inScope .ordinary (Standing.isOneOf headingNames) then
      closeImplied ""
      popThrough (Standing.isOneOf headingNames)
  else if (["a", "nobr"] ++ formattingNames).contains name then adopt name
  else if ["applet", "marquee", "object"].contains name then
    if ← inScopeNamed .ordinary name then
      closeImplied ""
      popThroughNamed name
      clearToEdge
  else match name with
  | "template" => rules (some .inHead) (.stop name)
  | "body" => if ← inScopeNamed .ordinary "body" then setMode .afterBody
  | "html" =>
      if ← inScopeNamed .ordinary "body" then again rules .afterBody (.stop name)
  | "form" => closeForm
  | "p" =>
      unless ← inScopeNamed .button "p" do openTag (.bare "p")
      closeParagraph
  | "li" =>
      if ← inScopeNamed .list "li" then
        closeImplied "li"
        popThroughNamed "li"
  | "dd" | "dt" =>
      if ← inScopeNamed .ordinary name then
        closeImplied name
        popThroughNamed name
  | "br" => rules (some .inBody) (.start (.bare "br"))
  | _ => closeInBody name

/-- The rules inside a body. -/
def inBody (rules : Rules) (token : Token) : Build Unit := do
  match token with
  | .char c =>
      unless c = '\x00' do
        reconstruct
        unless Text.isAsciiBlank c do notFrameset
        putChar c
  | .comment text => putComment text
  | .doctype _ | .fault => pure ()
  | .start tag => bodyStart rules tag
  | .stop name => bodyStop rules name
  | .finish => unless (← get).templateModes.isEmpty do rules (some .inTemplate) token

/-- Leaves a list of choices and reads the token again. -/
def leaveSelect (rules : Rules) (token : Token) : Build Unit := do
  popThroughNamed "select"
  resetMode
  rules none token

/-- The rules inside a list of choices. -/
def inSelect (rules : Rules) (token : Token) : Build Unit := do
  let closeOption : Build Unit := do if ← currentIs (Standing.isNamed "option") then pop
  let closeGroup : Build Unit := do if ← currentIs (Standing.isNamed "optgroup") then pop
  match token with
  | .char c => unless c = '\x00' do putChar c
  | .comment text => putComment text
  | .doctype _ | .fault => pure ()
  | .finish => rules (some .inBody) token
  | .start tag =>
      match tag.name with
      | "html" => rules (some .inBody) token
      | "option" => closeOption; openTag tag
      | "optgroup" => closeOption; closeGroup; openTag tag
      | "hr" => closeOption; closeGroup; putElement tag
      | "select" =>
          if ← inScopeNamed .select "select" then
            popThroughNamed "select"
            resetMode
      | "input" | "keygen" | "textarea" =>
          if ← inScopeNamed .select "select" then leaveSelect rules token
      | "script" | "template" => rules (some .inHead) token
      | _ => pure ()
  | .stop name =>
      match name with
      | "optgroup" =>
          match ← openElements with
          | option :: group :: _ =>
              if option.isNamed "option" && group.isNamed "optgroup" then pop
          | _ => pure ()
          closeGroup
      | "option" => closeOption
      | "select" =>
          if ← inScopeNamed .select "select" then
            popThroughNamed "select"
            resetMode
      | "template" => rules (some .inHead) token
      | _ => pure ()

/-- The elements of tables that end a list of choices in one. -/
def tableSelectNames : List String :=
  ["caption", "table", "tbody", "tfoot", "thead", "tr", "td", "th"]

/-- The rules inside a list of choices in a table. -/
def inSelectInTable (rules : Rules) (token : Token) : Build Unit := do
  match token with
  | .start tag =>
      if tableSelectNames.contains tag.name then leaveSelect rules token
      else inSelect rules token
  | .stop name =>
      if tableSelectNames.contains name then
        if ← inScopeNamed .table name then leaveSelect rules token
      else inSelect rules token
  | _ => inSelect rules token

/-! ## Other vocabularies -/

/-- The elements that end a part in another vocabulary where they begin. -/
def breakoutNames : List String :=
  ["b", "big", "blockquote", "body", "br", "center", "code", "dd", "div", "dl", "dt", "em",
    "embed", "h1", "h2", "h3", "h4", "h5", "h6", "head", "hr", "i", "img", "li", "listing",
    "menu", "meta", "nobr", "ol", "p", "pre", "ruby", "s", "small", "span", "strong", "strike",
    "sub", "sup", "table", "tt", "u", "ul", "var"]

/-- Whether a token belongs to the vocabulary of the innermost element, and not to the rules of
the mode. -/
def isForeign (stands : List Standing) (token : Token) : Bool :=
  match stands, token with
  | [], _ => false
  | _, .finish => false
  | s :: _, token =>
      let (isStart, isText, name) := match token with
        | .start tag => (true, false, tag.name)
        | .char _ => (false, true, "")
        | _ => (false, false, "")
      let plainly :=
        (s.holdsMathText && (isText || (isStart && !(["mglyph", "malignmark"].contains name)))) ||
        (s.holdsHtml && (isText || isStart)) ||
        (s.vocabulary == .math && s.name == "annotation-xml" && name == "svg")
      s.vocabulary != .html && !plainly

/-- Leaves the elements of another vocabulary. -/
def leaveForeign : Build Unit := do
  setOpen ((← openElements).dropWhile fun s =>
    s.vocabulary != .html && !s.holdsMathText && !s.holdsHtml)

/-- Closes an element of another vocabulary, or hands the end tag on at the first element of
HTML. -/
def foreignStop (rules : Rules) (mode : Mode) (name : String) : List Standing → Build Unit
  | [] => pure ()
  | s :: outer => do
      if outer.isEmpty then pure ()
      else if s.vocabulary == .html then rules (some mode) (.stop name)
      else if s.name.map Char.toLower == name then setOpen outer
      else foreignStop rules mode name outer

/-- The rules inside an element of another vocabulary. -/
def inForeign (rules : Rules) (token : Token) : Build Unit := do
  let mode := (← get).mode
  match token with
  | .char c =>
      unless c = '\x00' || Text.isAsciiBlank c do notFrameset
      putChar (Reading.visible c)
  | .comment text => putComment text
  | .doctype _ | .fault => pure ()
  | .finish => pure ()
  | .start tag =>
      let sized := tag.attributes.any fun a => ["color", "face", "size"].contains a.name
      if breakoutNames.contains tag.name || (tag.name == "font" && sized) then
        leaveForeign
        rules (some mode) token
      else
        let vocabulary := ((← current).map Standing.vocabulary).getD .html
        let _ ← openForeign vocabulary (foreignTag vocabulary tag)
        if tag.selfClosing then pop
  | .stop name =>
      if name == "br" || name == "p" then
        leaveForeign
        rules (some mode) token
      else foreignStop rules mode name (← openElements)

end Build

end Harvest.Html
