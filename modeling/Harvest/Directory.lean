import Harvest.Path

/-!
# Directories

Names arranged in a tree: each name of a directory stands for an item or for a directory below it.
Files, definitions and extractors are all kept so.  `Directory.find?` follows a path of names,
`Directory.names` lists the paths of all items, and `Directory.sift` makes a directory of new items
from those of another, with the reasons why some were left out.
-/

namespace Harvest

/-- What a name stands for. -/
inductive Entry (α : Type) where
  | item (value : α)
  | directory (entries : List (String × Entry α))

/-- Names with what they stand for. -/
abbrev Directory (α : Type) : Type := List (String × Entry α)

namespace Directory

variable {α β ε : Type}

/-- What a name stands for. -/
def get? (name : String) (d : Directory α) : Option (Entry α) := List.lookup name d

/-- The directory with `name` standing for `entry`, in its place in the order of names. -/
def insert (name : String) (entry : Entry α) : Directory α → Directory α
  | [] => [(name, entry)]
  | (n, e) :: d =>
      if name < n then (name, entry) :: (n, e) :: d
      else if n < name then (n, e) :: insert name entry d
      else (name, entry) :: d

/-- The directory with `name` standing for `entry`, unless it stands for something already. -/
def insertAbsent (name : String) (entry : Entry α) (d : Directory α) : Directory α :=
  if (d.get? name).isSome then d else d.insert name entry

/-- The item that a path of names leads to. -/
def find? : List String → Directory α → Option α
  | [], _ => none
  | [name], d =>
      match d.get? name with
      | some (.item a) => some a
      | _ => none
  | name :: rest, d =>
      match d.get? name with
      | some (.directory below) => find? rest below
      | _ => none

/-- The item under a name with slashes. -/
def item? (name : String) (d : Directory α) : Option α :=
  d.find? (Text.splitAt '/' name)

/-- The full name of `name` below `base`. -/
def fullName (base name : String) : String :=
  if base.isEmpty then name else base ++ "/" ++ name

mutual

/-- The full names of the items of an entry, which has one itself. -/
def entryNames (name : String) : Entry α → List String
  | .item _ => [name]
  | .directory entries => namesBelow name entries

/-- The full names of the items of a directory with the full name `base`. -/
def namesBelow (base : String) : List (String × Entry α) → List String
  | [] => []
  | (name, entry) :: entries => entryNames (fullName base name) entry ++ namesBelow base entries

end

/-- The full names of all items, sorted. -/
def names (d : Directory α) : List String :=
  (namesBelow "" d).mergeSort fun a b => decide (a ≤ b)

/-- What becomes of an item. -/
inductive Fate (β ε : Type) where
  | kept (value : β)
  | rejected (reason : ε)
  | ignored

/-- What an item leaves, and the reason if it is rejected. -/
def Fate.outcome : Fate β ε → Option (Entry β) × List ε
  | kept b => (some (.item b), [])
  | rejected reason => (none, [reason])
  | ignored => (none, [])

/-- What is left of a directory, and why some items are missing. -/
structure Sifted (β ε : Type) where
  kept : Directory β := []
  rejected : List ε := []

mutual

/-- What is left of an entry with its path, if anything is, and why something is missing. -/
def siftEntry (fate : String → α → Fate β ε) (path : String) :
    Entry α → Option (Entry β) × List ε
  | .item a => (fate path a).outcome
  | .directory entries =>
      let below := sift fate path entries
      (some (.directory below.kept), below.rejected)

/-- Decides on all items of a directory by their paths, which begin with `base`.  Directories stay
even if they are empty. -/
def sift (fate : String → α → Fate β ε) (base : String) :
    List (String × Entry α) → Sifted β ε
  | [] => {}
  | (name, entry) :: entries =>
      let (left?, reasons) := siftEntry fate (Path.join base name) entry
      let rest := sift fate base entries
      let kept := match left? with
        | some entry => rest.kept.insert name entry
        | none => rest.kept
      { kept, rejected := reasons ++ rest.rejected }

end

/-- The directory under a name, or an empty one. -/
def below (name : String) (d : Directory α) : Directory α :=
  match d.get? name with
  | some (.directory entries) => entries
  | _ => []

/-- Puts an item at a path of names; directories on the way are made. -/
def put (a : α) : List String → Directory α → Directory α
  | [], d => d
  | [name], d => d.insert name (.item a)
  | name :: rest, d => d.insert name (.directory (put a rest (d.below name)))

/-- Makes the directories along a path of names. -/
def ensure : List String → Directory α → Directory α
  | [], d => d
  | name :: rest, d => d.insert name (.directory (ensure rest (d.below name)))

/-- Takes out what a path of names leads to. -/
def erase : List String → Directory α → Directory α
  | [], _ => []
  | [name], d => d.filter fun e => e.1 ≠ name
  | name :: rest, d =>
      match d.get? name with
      | some (.directory entries) => d.insert name (.directory (erase rest entries))
      | _ => d

end Directory

end Harvest
