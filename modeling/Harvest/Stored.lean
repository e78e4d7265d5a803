import Harvest.Folder

/-!
# What a file system stores

In a file system a name is a sequence of bytes, which need not be a text, and not everything can be
read.  A program gets to know a directory entry by entry, as far as its access goes, and takes each
name for the text that it stands for.
-/

namespace Harvest

/-- How far a program gets with an entry of a directory. -/
inductive Access where
  | free
  /-- It can be told what the entry is, but it cannot be opened. -/
  | locked
  /-- The entry has a name, but it cannot be told what it is, nor can it be opened. -/
  | veiled
  /-- The listing of the directory fails at the entry. -/
  | lost
  deriving DecidableEq, Repr

/-- An entry of a directory, with all that is stored there. -/
inductive Stored where
  | file (name : Bytes) (access : Access) (bytes : Bytes)
  | directory (name : Bytes) (access : Access) (entries : List Stored)

namespace Stored

/-- The name of an entry as a text. -/
def shown : Stored → String
  | file name _ _ => Utf8.lossy name
  | directory name _ _ => Utf8.lossy name

mutual

/-- An entry of a folder to which there is free access. -/
def ofEntry (name : String) : Entry Bytes → Stored
  | .item bytes => file (Bytes.ofString name) .free bytes
  | .directory entries => directory (Bytes.ofString name) .free (ofEntries entries)

/-- The entries of a folder to which there is free access. -/
def ofEntries : List (String × Entry Bytes) → List Stored
  | [] => []
  | (name, entry) :: entries => ofEntry name entry :: ofEntries entries

end

end Stored

/-- What a program finds listed in a folder, if it is there. -/
def Folder.listing? (f : Folder) : Option (List Stored) := f.contents?.map Stored.ofEntries

end Harvest
