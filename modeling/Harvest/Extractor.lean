import Harvest.Extraction
import Harvest.Html.Reader

/-!
# Extractors

A definition that is ready to be applied: a gate on the address of a page, and the plan for the pages
that pass it.  The result is a mapping of one entry, under the title of the root field.
-/

namespace Harvest

/-- A compiled definition. -/
structure Extractor where
  gate : TextFilter
  plan : Plan
  storage : Option String
  deriving Repr

namespace Extractor

/-- Whether pages of a media type can be read: those of HTML, which is also what a blank type
means. -/
def readsMime (mime : String) : Bool :=
  ["", "html", "text/html"].contains (Text.lowerAscii (Text.trim mime))

/-- Compiles a definition: the media type is looked at first, then the gate, then the fields. -/
def compile (d : Definition) : Except Defect Extractor := do
  if !readsMime d.mime then throw (.unknownMime d.mime)
  let gate ← TextFilter.compile d.url
  let plan ← Plan.compile d.withRootType.field
  return { gate, plan, storage := d.storage }

/-- Whether pages at an address pass the gate; the empty address always does. -/
def admits (e : Extractor) (url : String) : Bool :=
  url.isEmpty || e.gate.accepts (Bytes.ofString url)

/-- What is found in a document, read from a node of it. -/
def apply (e : Extractor) (url : String) (doc : Document) (place : Place) : Option Datum :=
  if e.admits url then
    (e.plan.retrieve doc place).map fun value => .ofEntries [(e.plan.title, value)]
  else none

/-- What is found on a page. -/
def applyPage (e : Extractor) (url page : String) : Option Datum :=
  if e.admits url then e.apply url (.ofHtml page) .root else none

end Extractor

end Harvest
