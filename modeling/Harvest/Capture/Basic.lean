import Harvest.Extractor

/-!
# Captures

Pages that were captured under their addresses.  A definition is tried on captures before it is put
to use: each capture passes through the gate like any page.
-/

namespace Harvest

/-- The body of a page, and the address it was asked for. -/
structure Capture where
  url : String
  body : Bytes
  deriving DecidableEq, Repr

/-- The body as a text. -/
def Capture.text (c : Capture) : String := Utf8.lossy c.body

/-- What was found on the page with an address. -/
structure Finding where
  url : String
  result : Option Datum
  deriving Repr

/-- The finding as a JSON value; without a result it has no such member. -/
def Finding.toJson (f : Finding) : Json :=
  .object (("url", .text f.url) ::
    match f.result with
    | some d => [("result", d.toJson)]
    | none => [])

/-- What an extractor finds on a captured page. -/
def Extractor.inspect (e : Extractor) (c : Capture) : Finding :=
  ⟨c.url, e.apply c.url (.ofHtml c.text) .root⟩

/-- What a definition finds on each of some captured pages, if it compiles. -/
def Definition.inspect (d : Definition) (captures : List Capture) :
    Except Defect (List Finding) := do
  let e ← Extractor.compile d
  return captures.map e.inspect

end Harvest
