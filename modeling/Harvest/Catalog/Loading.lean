import Harvest.Catalog.Basic
import Harvest.Definition.File
import Harvest.Stored

/-!
# Loading catalogs

A folder of files becomes a directory of definitions, and that a catalog.  What cannot be read or
compiled is left out and reported under its path; it never stands in the way of the rest.  Only a
folder that cannot be listed itself cannot be loaded at all.
-/

namespace Harvest

/-- Definitions arranged by name. -/
abbrev Sources : Type := Directory Definition

namespace Sources

/-- The definition in a file, which its name tells from other files; without `bytes?` the file cannot
be opened. -/
def readFile (path : String) (bytes? : Option Bytes) : Directory.Fate Definition LoadError :=
  if Definition.isSource path then
    match bytes?.bind Bytes.text? with
    | none => .rejected (.unreadable path)
    | some text =>
        match Definition.ofFile path text with
        | .ok d => .kept d.withRootType
        | .error e => .rejected (.undecodable path e)
  else .ignored

mutual

/-- What is read of an entry of the directory at a path, and why something is missing.  What cannot
be told to be a directory is taken for a file. -/
def readEntry (path : String) : Stored → Option (Entry Definition) × List LoadError
  | .file name access bytes =>
      match access with
      | .free => (readFile (Path.join path (Utf8.lossy name)) (some bytes)).outcome
      | .locked => (readFile (Path.join path (Utf8.lossy name)) none).outcome
      | .veiled => (readFile (Path.join path (Utf8.lossy name)) none).outcome
      | .lost => (none, [.unreadable path])
  | .directory name access entries =>
      match access with
      | .free =>
          let below := read (Path.join path (Utf8.lossy name)) entries
          (some (.directory below.kept), below.rejected)
      | .locked => (none, [.unreadable (Path.join path (Utf8.lossy name))])
      | .veiled => (readFile (Path.join path (Utf8.lossy name)) none).outcome
      | .lost => (none, [.unreadable path])

/-- The definitions in the directory at a path, where these entries are listed. -/
def read (path : String) : List Stored → Directory.Sifted Definition LoadError
  | [] => {}
  | s :: entries =>
      let (left?, reasons) := readEntry path s
      let rest := read path entries
      -- of two names that are the same text, the one that is listed last counts
      let kept := match left? with
        | some entry => rest.kept.insertAbsent s.shown entry
        | none => rest.kept
      { kept, rejected := reasons ++ rest.rejected }

end

/-- The definitions in the directory at a path, if it can be listed. -/
def ofListing (path : String) :
    Option (List Stored) → Except LoadError (Directory.Sifted Definition LoadError)
  | some entries => .ok (read path entries)
  | none => .error (.unreadable path)

/-- The definitions in a folder at a path. -/
def ofFolder (path : String) (folder : Folder) :
    Except LoadError (Directory.Sifted Definition LoadError) :=
  ofListing path folder.listing?

end Sources

namespace Catalog

/-- The extractor of a definition with its path among the sources. -/
def compileSource (path : String) (d : Definition) : Directory.Fate Extractor LoadError :=
  match Extractor.compile d with
  | .ok e => .kept e
  | .error defect => .rejected (.uncompilable path defect)

/-- The catalog of some sources. -/
def compile (sources : Sources) : Directory.Sifted Extractor LoadError :=
  Directory.sift compileSource "" sources

/-- The catalog of the directory at a path, if it can be listed. -/
def loadListing (path : String) (listing? : Option (List Stored)) :
    Except LoadError (Directory.Sifted Extractor LoadError) := do
  let read ← Sources.ofListing path listing?
  let compiled := compile read.kept
  return { compiled with rejected := read.rejected ++ compiled.rejected }

/-- The catalog of a folder at a path. -/
def load (path : String) (folder : Folder) :
    Except LoadError (Directory.Sifted Extractor LoadError) :=
  loadListing path folder.listing?

end Catalog

end Harvest
