import Harvest.Html.Insertion.Body

/-!
# Tokens inside a table

What the tokens do that are read inside a table, its caption, columns, bodies, rows and cells.
Content that is misplaced there goes in front of the table.
-/

namespace Harvest.Html.Build

/-- Reads a token by the rules of a body, with its content in front of the table. -/
def foster (rules : Rules) (token : Token) : Build Unit := do
  modify ({ · with fostering := true })
  rules (some .inBody) token
  modify ({ · with fostering := false })

def tableSections : List String := ["tbody", "tfoot", "thead"]

/-- Closes elements up to the table, a template or the root. -/
def clearToTable : Build Unit := popTo ["table", "template", "html"]

def clearToSection : Build Unit := popTo ["tbody", "tfoot", "thead", "template", "html"]

def clearToRow : Build Unit := popTo ["tr", "template", "html"]

/-- A start tag inside a table. -/
def tableStart (rules : Rules) (tag : Tag) : Build Unit := do
  let token : Token := .start tag
  match tag.name with
  | "caption" =>
      clearToTable
      mark .edge
      openTag tag
      setMode .inCaption
  | "colgroup" =>
      clearToTable
      openTag tag
      setMode .inColumns
  | "col" =>
      clearToTable
      openTag (.bare "colgroup")
      again rules .inColumns token
  | "tbody" | "tfoot" | "thead" =>
      clearToTable
      openTag tag
      setMode .inTableBody
  | "td" | "th" | "tr" =>
      clearToTable
      openTag (.bare "tbody")
      again rules .inTableBody token
  | "table" =>
      if ← inScopeNamed .table "table" then
        popThroughNamed "table"
        resetMode
        rules none token
  | "style" | "script" | "template" => rules (some .inHead) token
  | "input" => if isHiddenInput tag then putElement tag else foster rules token
  | "form" =>
      if !(← inTemplate) && (← get).form.isNone then
        let id ← openElement tag
        pop
        modify ({ · with form := some id })
  | _ => foster rules token

/-- The rules inside a table. -/
def inTable (rules : Rules) (token : Token) : Build Unit := do
  match token with
  | .char _ =>
      if ← currentIs (Standing.isOneOf ["table", "tbody", "tfoot", "thead", "tr"]) then
        modify fun s => { s with returnMode := s.mode, tableText := [] }
        again rules .inTableText token
      else foster rules token
  | .comment text => putComment text
  | .doctype _ | .fault => pure ()
  | .finish => rules (some .inBody) token
  | .start tag => tableStart rules tag
  | .stop name =>
      match name with
      | "table" =>
          if ← inScopeNamed .table "table" then
            popThroughNamed "table"
            resetMode
      | "template" => rules (some .inHead) token
      | _ =>
          unless (["body", "html"] ++ tablePartNames).contains name && name != "frame" &&
              name != "head" do
            foster rules token

/-- The characters between the parts of a table: blanks stay where they are, and other text goes
in front of the table with the blanks around it. -/
def inTableText (rules : Rules) (token : Token) : Build Unit := do
  match token with
  | .char c => unless c = '\x00' do modify fun s => { s with tableText := c :: s.tableText }
  | _ =>
      let text := (← get).tableText.reverse
      modify ({ · with tableText := [] })
      if text.all Text.isAsciiBlank then text.forM putChar
      else text.forM fun c => foster rules (.char c)
      again rules (← get).returnMode token

/-- Closes a caption, if one is open. -/
def closeCaption : Build Bool := do
  if ← inScopeNamed .table "caption" then
    closeImplied ""
    popThroughNamed "caption"
    clearToEdge
    return true
  else return false

/-- The rules inside a caption. -/
def inCaption (rules : Rules) (token : Token) : Build Unit := do
  match token with
  | .start tag =>
      if (["caption", "col", "colgroup", "td", "th", "tr"] ++ tableSections).contains tag.name then
        if ← closeCaption then again rules .inTable token
      else rules (some .inBody) token
  | .stop name =>
      if name == "caption" then if ← closeCaption then setMode .inTable
      else if name == "table" then if ← closeCaption then again rules .inTable token
      else unless (["body", "col", "colgroup", "html", "td", "th", "tr"] ++
          tableSections).contains name do
        rules (some .inBody) token
  | _ => rules (some .inBody) token

/-- The rules inside a group of columns. -/
def inColumns (rules : Rules) (token : Token) : Build Unit := do
  let leave : Build Unit := do
    if ← currentIs (Standing.isNamed "colgroup") then
      pop
      again rules .inTable token
  match token with
  | .char c => if Text.isAsciiBlank c then putChar c else leave
  | .comment text => putComment text
  | .doctype _ | .fault => pure ()
  | .finish => rules (some .inBody) token
  | .start tag =>
      match tag.name with
      | "html" => rules (some .inBody) token
      | "col" => putElement tag
      | "template" => rules (some .inHead) token
      | _ => leave
  | .stop name =>
      match name with
      | "colgroup" =>
          if ← currentIs (Standing.isNamed "colgroup") then
            pop
            setMode .inTable
      | "col" => pure ()
      | "template" => rules (some .inHead) token
      | _ => leave

/-- Closes a body of a table and reads the token again, if a table is open, or a body of one other
than a head. -/
def leaveSection (rules : Rules) (token : Token) : Build Unit := do
  if ← inScope .table (Standing.isOneOf ["table", "tbody", "tfoot"]) then
    clearToSection
    pop
    again rules .inTable token

/-- The rules inside a body of a table. -/
def inTableBody (rules : Rules) (token : Token) : Build Unit := do
  match token with
  | .start tag =>
      if tag.name == "tr" then
        clearToSection
        openTag tag
        setMode .inRow
      else if ["th", "td"].contains tag.name then
        clearToSection
        openTag (.bare "tr")
        again rules .inRow token
      else if (["caption", "col", "colgroup"] ++ tableSections).contains tag.name then
        leaveSection rules token
      else rules (some .inTable) token
  | .stop name =>
      if tableSections.contains name then
        if ← inScopeNamed .table name then
          clearToSection
          pop
          setMode .inTable
      else if name == "table" then leaveSection rules token
      else unless ["body", "caption", "col", "colgroup", "html", "td", "th", "tr"].contains name do
        rules (some .inTable) token
  | _ => rules (some .inTable) token

/-- Closes a row and reads the token again, if a row is open. -/
def leaveRow (rules : Rules) (token : Token) : Build Unit := do
  if ← inScopeNamed .table "tr" then
    clearToRow
    pop
    again rules .inTableBody token

/-- The rules inside a row. -/
def inRow (rules : Rules) (token : Token) : Build Unit := do
  match token with
  | .start tag =>
      if ["th", "td"].contains tag.name then
        clearToRow
        openTag tag
        setMode .inCell
        mark .edge
      else if (["caption", "col", "colgroup", "tr"] ++ tableSections).contains tag.name then
        leaveRow rules token
      else rules (some .inTable) token
  | .stop name =>
      if name == "tr" then
        if ← inScopeNamed .table "tr" then
          clearToRow
          pop
          setMode .inTableBody
      else if name == "table" then leaveRow rules token
      else if tableSections.contains name then
        if ← inScopeNamed .table name then leaveRow rules token
      else unless ["body", "caption", "col", "colgroup", "html", "td", "th"].contains name do
        rules (some .inTable) token
  | _ => rules (some .inTable) token

/-- Closes the cell that is open and reads the token again. -/
def leaveCell (rules : Rules) (token : Token) : Build Unit := do
  closeImplied ""
  popThrough (Standing.isOneOf ["td", "th"])
  clearToEdge
  again rules .inRow token

/-- The rules inside a cell. -/
def inCell (rules : Rules) (token : Token) : Build Unit := do
  match token with
  | .start tag =>
      if (["caption", "col", "colgroup", "td", "th", "tr"] ++ tableSections).contains tag.name then
        if ← inScope .table (Standing.isOneOf ["td", "th"]) then leaveCell rules token
      else rules (some .inBody) token
  | .stop name =>
      if ["td", "th"].contains name then
        if ← inScopeNamed .table name then
          closeImplied ""
          popThroughNamed name
          clearToEdge
          setMode .inRow
      else if (["table", "tr"] ++ tableSections).contains name then
        if ← inScopeNamed .table name then leaveCell rules token
      else unless ["body", "caption", "col", "colgroup", "html"].contains name do
        rules (some .inBody) token
  | _ => rules (some .inBody) token

end Harvest.Html.Build
