import Harvest.Capture.Basic
import Harvest.Definition.Defect
import Harvest.Digest.Sha256
import Harvest.Folder
import Harvest.Text.FormEncoding

/-!
# Archives of captures

A folder with one file for each captured page.  The name of the file is the encoded address of the
page, so that people can find their way in the folder.  An address with too long a name goes by its
digest behind a tilde, which no encoded address holds, and is kept in a file of its own beside the
page.
-/

namespace Harvest

/-- A folder of captured pages. -/
structure Archive where
  folder : Folder := {}

namespace Archive

/-- Why an archive cannot do what it is asked for: its folder, or what stands in it under a name,
cannot be used. -/
inductive Failure where
  | unusable
  deriving DecidableEq, Repr

def Failure.report : Failure → Report
  | unusable => .of ("sample store I/O error: " ++ detail) [detail]

/-! ## Names of files -/

/-- How many bytes an encoded address may have to be the name of a file. -/
def longestPlainName : Nat := 200

/-- The text of bytes in hexadecimal. -/
def hexText (bytes : Bytes) : String :=
  String.ofList (bytes.flatMap fun b =>
    [Nat.digitChar (b.toNat / 16), Nat.digitChar (b.toNat % 16)])

/-- The name that stands for an address with too long a name of its own. -/
def hashedName (url : String) : String :=
  "~" ++ hexText (Sha256.digest (Bytes.ofString url))

/-- The name of the file for the page with an address. -/
def fileName (url : String) : String :=
  let name := FormEncoding.encode url
  if name.utf8ByteSize ≤ longestPlainName then name else hashedName url

def isHashed (name : String) : Bool := name.startsWith "~"

/-- The name of the file for the address of the page in a file. -/
def addressName (name : String) : String := name ++ ".url"

/-! ## Pages -/

/-- Stores a page, in place of an earlier one with its address. -/
def save (url : String) (body : Bytes) (a : Archive) : Archive × Except Failure Unit :=
  let name := fileName url
  match a.folder.write? name body with
  | none => (a, .error .unusable)
  | some folder =>
      if isHashed name then
        match folder.write? (addressName name) (Bytes.ofString url) with
        | none => (⟨folder⟩, .error .unusable)
        | some folder => (⟨folder⟩, .ok ())
      else (⟨folder⟩, .ok ())

/-- The page with an address, if there is one. -/
def load (url : String) (a : Archive) : Except Failure (Option Capture) :=
  match a.folder.find (fileName url) with
  | .file body => .ok (some ⟨url, body⟩)
  | .nothing => .ok none
  | .unusable => .error .unusable

/-- The address of the page in a file.  Files for addresses hold no page, and a page whose address
is lost has none. -/
def addressOf (name : String) (folder : Folder) : Except Failure (Option String) :=
  if !isHashed name then .ok (FormEncoding.firstName? name)
  else if name.endsWith ".url" then .ok none
  else
    match folder.find (addressName name) with
    | .file bytes =>
        match bytes.text? with
        | some url => .ok (some url)
        | none => .error .unusable
    | .nothing => .ok none
    | .unusable => .error .unusable

/-- The addresses of the pages in some entries of a folder, in the order of the entries. -/
def addresses (folder : Folder) : Directory Bytes → Except Failure (List String)
  | [] => .ok []
  | (name, .item _) :: entries => do
      let url? ← addressOf name folder
      let urls ← addresses folder entries
      return url?.toList ++ urls
  | (_, .directory _) :: entries => addresses folder entries

/-- The addresses of all pages, sorted. -/
def list (a : Archive) : Except Failure (List String) :=
  match a.folder.contents? with
  | none => .error .unusable
  | some entries => do
      let urls ← addresses a.folder entries
      return urls.mergeSort fun u v => decide (u ≤ v)

/-- The pages with some addresses; those that are missing are passed over. -/
def loadEach (a : Archive) : List String → Except Failure (List Capture)
  | [] => .ok []
  | url :: urls => do
      let capture? ← a.load url
      let captures ← a.loadEach urls
      return capture?.toList ++ captures

/-- All pages, in the order of their addresses. -/
def loadAll (a : Archive) : Except Failure (List Capture) := do
  a.loadEach (← a.list)

/-- Removes the page with an address, and tells whether there was one. -/
def remove (url : String) (a : Archive) : Archive × Except Failure Bool :=
  let name := fileName url
  match a.folder.remove? name with
  | none => (a, .error .unusable)
  | some (removed, folder) =>
      match folder.remove? (addressName name) with
      | none => (⟨folder⟩, .error .unusable)
      | some (_, folder) => (⟨folder⟩, .ok removed)

/-- Removes the pages with some addresses, up to the first that cannot be removed. -/
def removeEach : List String → Archive → Archive × Except Failure Unit
  | [], a => (a, .ok ())
  | url :: urls, a =>
      match a.remove url with
      | (a, .ok _) => removeEach urls a
      | (a, .error e) => (a, .error e)

/-- Removes all pages, and counts them. -/
def flush (a : Archive) : Archive × Except Failure Nat :=
  match a.list with
  | .error e => (a, .error e)
  | .ok urls =>
      match removeEach urls a with
      | (a, .ok ()) => (a, .ok urls.length)
      | (a, .error e) => (a, .error e)

/-- The names of all files, sorted. -/
def files (a : Archive) : Except Failure (List String) :=
  match a.folder.names? with
  | some names => .ok names
  | none => .error .unusable

/-- Makes the folder, if it is missing. -/
def reopen (a : Archive) : Archive := ⟨a.folder.ensure ""⟩

end Archive

end Harvest
