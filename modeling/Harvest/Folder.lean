import Harvest.Directory
import Harvest.Text.Utf8

/-!
# Folders of files

The folder that a program keeps its files in.  It may be missing, and what stands under a name may
be something else than a file.
-/

namespace Harvest

/-- A folder of files, which may be missing. -/
structure Folder where
  contents? : Option (Directory Bytes) := some []

/-- What stands under a name. -/
inductive Folder.Found where
  | file (bytes : Bytes)
  | nothing
  /-- No file can be read, written or removed under the name. -/
  | unusable
  deriving DecidableEq, Repr

namespace Folder

/-- How many bytes a name of a file may have. -/
def longestName : Nat := 255

/-- What stands under a name.  The empty name and dots lead to the folder itself or out of it. -/
def find (name : String) (f : Folder) : Found :=
  match f.contents? with
  | none => .nothing
  | some d =>
      if ["", ".", ".."].contains name || longestName < name.utf8ByteSize then .unusable
      else match d.get? name with
      | some (.item bytes) => .file bytes
      | some (.directory _) => .unusable
      | none => .nothing

/-- The names in the folder, sorted. -/
def names? (f : Folder) : Option (List String) :=
  f.contents?.map fun d => (d.map (·.1)).mergeSort fun a b => decide (a ≤ b)

/-- Writes a file, if the folder is there and the name can be used. -/
def write? (name : String) (bytes : Bytes) (f : Folder) : Option Folder :=
  match f.contents?, f.find name with
  | none, _ => none
  | _, .unusable => none
  | some d, _ => some ⟨some (d.insert name (.item bytes))⟩

/-- Removes a file, and tells whether there was one. -/
def remove? (name : String) (f : Folder) : Option (Bool × Folder) :=
  match f.find name with
  | .unusable => none
  | .nothing => some (false, f)
  | .file _ => some (true, ⟨f.contents?.map (Directory.erase [name])⟩)

/-! ## Changes from outside -/

/-- Puts a file at a path, with the folders it needs. -/
def place (path : String) (bytes : Bytes) (f : Folder) : Folder :=
  ⟨some (Directory.put bytes (Path.names path) (f.contents?.getD []))⟩

/-- Makes the folders along a path. -/
def ensure (path : String) (f : Folder) : Folder :=
  ⟨some (Directory.ensure (Path.names path) (f.contents?.getD []))⟩

/-- Takes out what is at a path; the empty path is that of the folder itself. -/
def discard (path : String) (f : Folder) : Folder :=
  match Path.names path with
  | [] => ⟨none⟩
  | names => ⟨f.contents?.map (Directory.erase names)⟩

end Folder

end Harvest
