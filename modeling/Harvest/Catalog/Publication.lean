import Harvest.Catalog.Loading

/-!
# Publication

The catalog that is in force, next to the folder that it comes from.  The folder changes under the
hands of its owner; the catalog changes when it is loaded again or another is published.  A folder
that cannot be loaded leaves the catalog as it is, and a catalog that someone holds never changes.
-/

namespace Harvest

/-- A folder of definitions with the catalog in force. -/
structure Publication where
  /-- Where the folder is. -/
  path : String
  folder : Folder := {}
  current : Catalog := []
  /-- The catalogs that are held, by the names they are held under. -/
  held : List (String × Catalog) := []

namespace Publication

/-- What may happen to a publication. -/
inductive Step where
  | place (path : String) (bytes : Bytes)
  | ensure (path : String)
  | discard (path : String)
  | reload
  | publish (catalog : Catalog)
  | hold (name : String)

/-- The publication with the catalog of its folder in force, and what was left out of it; it stays
the same if the folder cannot be loaded. -/
def reload (p : Publication) : Publication × Except LoadError (List LoadError) :=
  match Catalog.load p.path p.folder with
  | .ok loaded => ({ p with current := loaded.kept }, .ok loaded.rejected)
  | .error e => (p, .error e)

/-- What becomes of the publication in a step. -/
def step (p : Publication) : Step → Publication
  | .place path bytes => { p with folder := p.folder.place path bytes }
  | .ensure path => { p with folder := p.folder.ensure path }
  | .discard path => { p with folder := p.folder.discard path }
  | .reload => p.reload.1
  | .publish catalog => { p with current := catalog }
  | .hold name => { p with held := (name, p.current) :: p.held }

/-- What becomes of the publication in some steps. -/
def run (p : Publication) (steps : List Step) : Publication := steps.foldl step p

/-- The catalog held under a name. -/
def held? (p : Publication) (name : String) : Option Catalog := p.held.lookup name

end Publication

end Harvest
