import Harvest.Definition.Basic
import Harvest.Json.Basic

/-!
# Raw definitions

A definition before it is known to be one: a tree of records, lists and leaves that any of the
written forms can be read as.  A leaf knows what it means wherever it may stand, since the forms
differ in that.  Records may leave out any entry and may hold unknown ones, which are not looked
at; an entry may be given under one of several names, but once only.

A value may be shared between places: then each place has a number that stands for it.  Reading
takes a bound on how deeply records and lists are nested, and one on how often a shared value may
be read, so that it ends even where a value stands inside itself.
-/

namespace Harvest

/-- Whether a leaf says that there is nothing. -/
inductive Presence where
  | present
  | absent
  /-- It says both. -/
  | unclear
  deriving DecidableEq, Repr

/-- What a leaf means in each of the places where it may stand. -/
structure Leaf where
  /-- The text it stands for. -/
  text : Option String := none
  flag : Option Bool := none
  lines : Option Lines := none
  presence : Presence := .present
  /-- It stands for a record or list without entries. -/
  isVoid : Bool := false
  deriving Repr

/-- What a list may stand for. -/
inductive ListKind where
  /-- A list, and also a record, by the values of its entries. -/
  | positional
  /-- A list only. -/
  | simple
  /-- A list, but only where nothing else could stand. -/
  | special
  deriving DecidableEq, Repr

/-- A definition as it is written. -/
inductive Raw where
  | leaf (leaf : Leaf)
  | list (kind : ListKind) (items : List Raw)
  /-- Entries with their names. -/
  | record (entries : List (Raw × Raw))
  /-- A shared value by its number. -/
  | shared (number : Nat)
  deriving Repr

namespace Raw

/-- A step of reading, which may fail: it knows the shared values, and the state is how often one
may still be read. -/
abbrev Read := ReaderT (Nat → Option Raw) (StateT Nat Option)

/-- The value itself, where a number stands for it. -/
def follow : Raw → Read Raw
  | shared number => do
      match ← get with
      | 0 => failure
      | left + 1 =>
          set left
          match (← read) number with
          | some raw => return raw
          | none => failure
  | raw => return raw

/-- The text of a leaf. -/
def text (raw : Raw) : Read String := do
  match ← follow raw with
  | leaf ⟨some text, _, _, _, _⟩ => return text
  | _ => failure

def flag (raw : Raw) : Read Bool := do
  match ← follow raw with
  | leaf ⟨_, some flag, _, _, _⟩ => return flag
  | _ => failure

/-- The values under each of some groups of names. -/
def named (groups : List (List String)) (entries : List (String × Raw)) :
    Read (List (Option Raw)) :=
  groups.mapM fun names =>
    match entries.filter fun e => names.contains e.1 with
    | [] => return none
    | [e] => return some e.2
    | _ => failure

/-- The values of the entries of a record, for each group of names. -/
def slots (groups : List (List String)) : Raw → Read (List (Option Raw))
  | leaf l => if l.isVoid then return groups.map fun _ => none else failure
  | list kind items =>
      if kind = .positional && items.length ≤ groups.length then
        return items.map some ++ List.replicate (groups.length - items.length) none
      else failure
  | record entries => do
      let names ← entries.mapM fun e => text e.1
      named groups (names.zip (entries.map Prod.snd))
  | shared _ => failure

/-- How deeply the values inside may be nested, where `depth` bounds the value itself. -/
def inside (depth : Nat) : Raw → Read Nat
  | leaf _ => return depth
  | _ => if depth = 0 then failure else return depth - 1

/-- Reads the value of an entry, or takes the default if it is left out. -/
def entry {α : Type} (default : α) (read : Raw → Read α) : Option Raw → Read α
  | none => return default
  | some raw => read raw

/-- Reads a value that may say that there is none. -/
def optional {α : Type} (read : Raw → Read α) (raw : Raw) : Read (Option α) := do
  let raw ← follow raw
  match raw with
  | leaf ⟨_, _, _, .absent, _⟩ => return none
  | leaf ⟨_, _, _, .unclear, _⟩ => failure
  | _ => return some (← read raw)

def lines (depth : Nat) (raw : Raw) : Read Lines := do
  match ← follow raw with
  | leaf ⟨_, _, some lines, _, _⟩ => return lines
  | list kind items =>
      if kind = .special || depth = 0 then failure
      let texts ← items.mapM (optional text)
      return ⟨texts.filterMap id⟩
  | _ => failure

def includeNames : List String := ["include", "Include"]

def excludeNames : List String := ["exclude", "Exclude"]

def removeNames : List String := ["remove", "Remove"]

def textRules (depth : Nat) (raw : Raw) : Read Definition.TextRules := do
  let raw ← follow raw
  let depth ← inside depth raw
  match ← slots [["submatch", "Submatch"], includeNames, excludeNames, removeNames] raw with
  | [submatch, includes, excludes, removes] =>
      let submatch ← entry "" text submatch
      let includes ← entry {} (lines depth) includes
      let excludes ← entry {} (lines depth) excludes
      let removes ← entry {} (lines depth) removes
      return { submatch, includes, excludes, removes }
  | _ => failure

def nodeRules (depth : Nat) (raw : Raw) : Read Definition.NodeRules := do
  let raw ← follow raw
  let depth ← inside depth raw
  match ← slots [includeNames, excludeNames, removeNames] raw with
  | [includes, excludes, removes] =>
      let includes ← entry {} (lines depth) includes
      let excludes ← entry {} (lines depth) excludes
      let removes ← entry {} (lines depth) removes
      return { includes, excludes, removes }
  | _ => failure

/-- The names of the entries of a field. -/
def fieldNames : List (List String) :=
  [["title"], ["type"], ["path"], ["data"], ["xdata"], ["optional"],
    ["dontstore", "dontStore", "dont_store"], ["multiple"], ["unique"], ["attr", "preserveAttr"],
    ["field", "fields"]]

/-- Reads the entries of a field; `children` reads its last one. -/
def fieldEntries (depth : Nat) (children : Raw → Read (List Definition.Field)) (raw : Raw) :
    Read Definition.Field := do
  match ← slots fieldNames raw with
  | [title, type, path, data, xdata, optionalFlag, transient, multiple, unique, standard,
      fields] =>
      let title ← entry "" text title
      let type ← entry "" text type
      let path ← entry {} (lines depth) path
      let data ← entry none (optional (textRules depth)) data
      let xdata ← entry none (optional (nodeRules depth)) xdata
      let optional ← entry false flag optionalFlag
      let transient ← entry false flag transient
      let multiple ← entry false flag multiple
      let unique ← entry false flag unique
      let standard ← entry false flag standard
      let fields ← entry [] children fields
      return { title, type, path, data, xdata, optional, transient, multiple, unique, standard,
               fields }
  | _ => failure

mutual

/-- Reads a field that is nested at most `depth` levels deep. -/
def field (depth : Nat) (raw : Raw) : Read Definition.Field := do
  match ← follow raw with
  | leaf l => fieldEntries depth (fun _ => failure) (leaf l)
  | raw =>
      match depth with
      | 0 => failure
      | depth + 1 => fieldEntries depth (fields depth) raw

/-- Reads a list of fields. -/
def fields (depth : Nat) (raw : Raw) : Read (List Definition.Field) := do
  match ← follow raw with
  | leaf l => if l.isVoid then return [] else failure
  | list _ items =>
      match depth with
      | 0 => failure
      | depth + 1 => items.mapM (field depth)
  | _ => failure

end

/-- Reads a definition that is nested at most `depth` levels deep. -/
def definition (depth : Nat) (raw : Raw) : Read Definition := do
  let raw ← follow raw
  let depth ← inside depth raw
  match ← slots [["url", "URL", "urlRules"], ["field"], ["mime"], ["storage"]] raw with
  | [url, root, mime, storage] =>
      let url ← entry none (optional (textRules depth)) url
      let field ← entry {} (field depth) root
      let mime ← entry "" text mime
      let storage ← entry none (optional text) storage
      return { url, field, mime, storage }
  | _ => failure

/-- What reading gives, where the shared values are given by `sharing` and may be read `times`
times in all. -/
def Read.result? {α : Type} (sharing : Nat → Option Raw) (times : Nat) (read : Read α) :
    Option α :=
  (ReaderT.run read sharing).run' times

mutual

/-- A JSON value as a raw definition. -/
def ofJson : Json → Raw
  | .null => .leaf { lines := some {}, presence := .absent }
  | .bool b => .leaf { flag := some b }
  | .text s => .leaf { text := some s, lines := some ⟨[s]⟩ }
  | .array items => .list .positional (ofItems items)
  | .object members => .record (ofMembers members)
  | .int _ => .leaf {}
  | .float _ => .leaf {}
  | .unpaired => .leaf {}

def ofItems : List Json → List Raw
  | [] => []
  | v :: vs => ofJson v :: ofItems vs

def ofMembers : List (String × Json) → List (Raw × Raw)
  | [] => []
  | (name, v) :: ms => (.leaf { text := some name }, ofJson v) :: ofMembers ms

end

/-- Reads a JSON value, in which nothing is shared. -/
def readJson? {α : Type} (read : Raw → Read α) (v : Json) : Option α :=
  (read (ofJson v)).result? (fun _ => none) 0

/-- How deeply records and lists may be nested in JSON. -/
def jsonDepth : Nat := 127

end Raw

end Harvest
