import Harvest.Directory
import Harvest.Extractor

/-!
# Catalogs

Extractors arranged by name.  A catalog is applied to a page as a whole: what its extractors find
is put together under their names, one mapping for each directory in which anything is found.
-/

namespace Harvest

/-- Extractors arranged by name. -/
abbrev Catalog : Type := Directory Extractor

/-- The mapping of some entries, unless there are none. -/
def Datum.mapping? (entries : List (String × Datum)) : Option Datum :=
  if entries.isEmpty then none else some (.ofEntries entries)

namespace Catalog

mutual

/-- What an entry finds in a document, read from a node of it. -/
def applyEntry (url : String) (doc : Document) (place : Place) : Entry Extractor → Option Datum
  | .item e => e.apply url doc place
  | .directory entries => Datum.mapping? (results url doc place entries)

/-- What each entry finds, under its name. -/
def results (url : String) (doc : Document) (place : Place) :
    List (String × Entry Extractor) → List (String × Datum)
  | [] => []
  | (name, entry) :: entries =>
      match applyEntry url doc place entry with
      | some value => (name, value) :: results url doc place entries
      | none => results url doc place entries

end

/-- What the extractors of a catalog find in a document, read from a node of it. -/
def apply (c : Catalog) (url : String) (doc : Document) (place : Place) : Option Datum :=
  Datum.mapping? (results url doc place c)

/-- What the extractors of a catalog find on a page. -/
def applyPage (c : Catalog) (url page : String) : Option Datum :=
  c.apply url (.ofHtml page) .root

/-- The extractor under a name with slashes. -/
def extractor? (c : Catalog) (name : String) : Option Extractor := c.item? name

end Catalog

end Harvest
