import Harvest.Yaml.Lexer

/-!
# Nodes of YAML

The tree that the tokens of a YAML text describe.  A node that an anchor is given to has a number,
and an alias has the number of its anchor.  The number of an anchor is the number of names that
anchors have had before it, so the anchor that gives a name once more may share its number with
others: an alias then stands for the last of the nodes with its number, wherever it is in the text.
-/

namespace Harvest.Yaml

/-- A node of a YAML document. -/
inductive Node where
  /-- The content of a document that holds nothing at all. -/
  | void
  | scalar (tag : Option Tag) (style : Style) (text : String)
  | sequence (tag : Option Tag) (items : List Node)
  | mapping (entries : List (Node × Node))
  | anchored (number : Nat) (node : Node)
  | alias (number : Nat)
  deriving Repr, Inhabited

namespace Node

mutual

/-- The nodes with numbers in a node, in the order in which they begin. -/
def anchors : Node → List (Nat × Node)
  | void => []
  | scalar _ _ _ => []
  | sequence _ items => anchorsOfItems items
  | mapping entries => anchorsOfEntries entries
  | anchored number node => (number, node) :: node.anchors
  | .alias _ => []

def anchorsOfItems : List Node → List (Nat × Node)
  | [] => []
  | n :: ns => n.anchors ++ anchorsOfItems ns

def anchorsOfEntries : List (Node × Node) → List (Nat × Node)
  | [] => []
  | (key, value) :: es => key.anchors ++ value.anchors ++ anchorsOfEntries es

end

mutual

/-- How many steps it takes to go through a node once: one for each scalar and alias, and one for
each end of a collection. -/
def size : Node → Nat
  | void => 1
  | scalar _ _ _ => 1
  | sequence _ items => 2 + sizeOfItems items
  | mapping entries => 2 + sizeOfEntries entries
  | anchored _ node => node.size
  | .alias _ => 1

def sizeOfItems : List Node → Nat
  | [] => 0
  | n :: ns => n.size + sizeOfItems ns

def sizeOfEntries : List (Node × Node) → Nat
  | [] => 0
  | (key, value) :: es => key.size + value.size + sizeOfEntries es

end

end Node

/-- The state of reading nodes: the tokens that are left, the beginnings of tags, and the names of
the anchors seen so far with the numbers that they have now. -/
structure Composer where
  tokens : List Token
  handles : List (String × Bytes)
  names : List (String × Nat)

/-- A step of reading nodes, which may fail. -/
abbrev Compose := StateT Composer Option

namespace Compose

def peek : Compose (Option Token) := return (← get).tokens.head?

def skip : Compose Unit := modify fun s => { s with tokens := s.tokens.drop 1 }

/-- Whether one of some tokens comes next. -/
def comes (tokens : List Token) : Compose Bool :=
  return ((← peek).map tokens.contains).getD false

/-- A scalar without text where there is no node. -/
def blank : Node := .scalar none .plain ""

/-- The bytes of a tag in full. -/
def tagBytes (handle : String) (suffix : Bytes) : Compose Bytes := do
  if handle.isEmpty then return suffix
  match (← get).handles.lookup handle with
  | some stem => return stem ++ suffix
  | none => failure

/-- What may stand in front of a node. -/
structure Properties where
  anchor : Option String := none
  tag : Option Bytes := none

namespace Properties

/-- Whether anything stands in front of the node. -/
def isGiven (p : Properties) : Bool := p.anchor.isSome || p.tag.isSome

/-- What the tag says. -/
def kind (p : Properties) : Option Tag := p.tag.map Tag.ofBytes

/-- What the tag of a scalar says: one that leaves open what the scalar is says nothing. -/
def scalarKind (p : Properties) : Option Tag :=
  if p.tag = some Tag.openBytes then none else p.kind

end Properties

/-- The anchor and the tag of a node, in either order. -/
def properties (found : Properties) : Nat → Compose Properties
  | 0 => return found
  | fuel + 1 => do
      match ← peek with
      | some (.anchor name) =>
          if found.anchor.isSome then return found
          skip
          properties { found with anchor := some name } fuel
      | some (.tag handle suffix) =>
          if found.tag.isSome then return found
          skip
          properties { found with tag := some (← tagBytes handle suffix) } fuel
      | _ => return found

/-- Gives a number to an anchor. -/
def number (name : String) : Compose Nat :=
  modifyGet fun s =>
    let number := s.names.length
    let others := s.names.filter (·.1 ≠ name)
    (number, { s with names := (name, number) :: others })

/-- The node of an alias. -/
def aliasOf (name : String) : Compose Node := do
  match (← get).names.lookup name with
  | some number => return .alias number
  | none => failure

mutual

/-- Reads a node: in a block, where `inBlock`, and there also a sequence whose items are not
indented, where `indentless`.  `fuel` bounds the number of tokens. -/
def node (inBlock indentless : Bool) : Nat → Compose Node
  | 0 => failure
  | fuel + 1 => do
      match ← peek with
      | some (.alias name) =>
          skip
          aliasOf name
      | _ =>
          let p ← properties {} 2
          match p.anchor with
          | none => content p inBlock indentless fuel
          | some name =>
              let number ← number name
              return .anchored number (← content p inBlock indentless fuel)

/-- Reads a node from behind its anchor and tag. -/
def content (p : Properties) (inBlock indentless : Bool) : Nat → Compose Node
  | 0 => failure
  | fuel + 1 => do
      let missing : Compose Node :=
        if p.isGiven then return .scalar p.kind .plain "" else failure
      match ← peek with
      | some (.scalar style text) =>
          skip
          return .scalar p.scalarKind style text
      | some .flowSequence =>
          skip
          return .sequence p.kind (← flowItems true fuel)
      | some .flowMapping =>
          skip
          return .mapping (← flowEntries true fuel)
      | some .blockSequence =>
          if !inBlock then failure
          skip
          return .sequence p.kind (← blockItems fuel)
      | some .blockMapping =>
          if !inBlock then failure
          skip
          return .mapping (← blockEntries fuel)
      | some .blockEntry =>
          if indentless then return .sequence p.kind (← plainItems fuel) else missing
      | _ => missing

/-- A node in a block, or a blank one if one of some tokens comes next. -/
def nodeUnless (tokens : List Token) (inBlock indentless : Bool) : Nat → Compose Node
  | 0 => failure
  | fuel + 1 => do
      if ← comes tokens then return blank else node inBlock indentless fuel

/-- The items of a block sequence, from the first mark on. -/
def blockItems : Nat → Compose (List Node)
  | 0 => failure
  | fuel + 1 => do
      match ← peek with
      | some .blockEntry =>
          skip
          let item ← nodeUnless [.blockEntry, .blockEnd] true false fuel
          return item :: (← blockItems fuel)
      | some .blockEnd =>
          skip
          return []
      | _ => failure

/-- The items of a sequence that is not indented. -/
def plainItems : Nat → Compose (List Node)
  | 0 => failure
  | fuel + 1 => do
      if ← comes [.blockEntry] then
        skip
        let item ← nodeUnless [.blockEntry, .key, .value, .blockEnd] true false fuel
        return item :: (← plainItems fuel)
      else return []

/-- The entries of a block mapping. -/
def blockEntries : Nat → Compose (List (Node × Node))
  | 0 => failure
  | fuel + 1 => do
      match ← peek with
      | some .key =>
          skip
          let key ← nodeUnless [.key, .value, .blockEnd] true true fuel
          let value ←
            if ← comes [.value] then
              skip
              nodeUnless [.key, .value, .blockEnd] true true fuel
            else pure blank
          return (key, value) :: (← blockEntries fuel)
      | some .blockEnd =>
          skip
          return []
      | _ => failure

/-- The items of a flow sequence; one that is a key with a value is a mapping of its own. -/
def flowItems (first : Bool) : Nat → Compose (List Node)
  | 0 => failure
  | fuel + 1 => do
      if ← comes [.flowSequenceEnd] then
        skip
        return []
      if !first then
        if ← comes [.flowEntry] then skip else failure
      match ← peek with
      | some .key =>
          skip
          let key ←
            if ← comes [.value, .flowEntry, .flowSequenceEnd] then
              skip
              pure blank
            else node false false fuel
          let value ←
            if ← comes [.value] then
              skip
              nodeUnless [.flowEntry, .flowSequenceEnd] false false fuel
            else pure blank
          return .mapping [(key, value)] :: (← flowItems false fuel)
      | some .flowSequenceEnd =>
          skip
          return []
      | _ =>
          let item ← node false false fuel
          return item :: (← flowItems false fuel)

/-- The entries of a flow mapping. -/
def flowEntries (first : Bool) : Nat → Compose (List (Node × Node))
  | 0 => failure
  | fuel + 1 => do
      if ← comes [.flowMappingEnd] then
        skip
        return []
      if !first then
        if ← comes [.flowEntry] then skip else failure
      match ← peek with
      | some .key =>
          skip
          let key ← nodeUnless [.value, .flowEntry, .flowMappingEnd] false false fuel
          let value ←
            if ← comes [.value] then
              skip
              nodeUnless [.flowEntry, .flowMappingEnd] false false fuel
            else pure blank
          return (key, value) :: (← flowEntries false fuel)
      | some .flowMappingEnd =>
          skip
          return []
      | _ =>
          let key ← node false false fuel
          return (key, blank) :: (← flowEntries false fuel)

end

/-! ## Documents -/

/-- Reads the directives in front of a document: at most one version, and a stem for each handle. -/
def directives (versioned : Bool) : Nat → Compose Unit
  | 0 => pure ()
  | fuel + 1 => do
      match ← peek with
      | some (.version major minor) =>
          if versioned || major ≠ 1 || (minor ≠ 1 && minor ≠ 2) then failure
          skip
          directives true fuel
      | some (.tagDirective handle stem) =>
          let s ← get
          if (s.handles.take (s.handles.length - 2)).any (·.1 = handle) then failure
          set { s with handles := (handle, stem) :: s.handles }
          skip
          directives versioned fuel
      | _ => pure ()

/-- Passes over the marks at the end of a document. -/
def documentEnds : Nat → Compose Unit
  | 0 => pure ()
  | fuel + 1 => do
      if ← comes [.documentEnd] then
        skip
        documentEnds fuel

/-- Reads the only document of a text. -/
def document (fuel : Nat) : Compose Node := do
  let content ← match ← peek with
    | none => pure .void
    | some token =>
        let isMarked := match token with
          | .version _ _ => true
          | .tagDirective _ _ => true
          | .documentStart => true
          | _ => false
        if isMarked then
          directives false fuel
          if ← comes [.documentStart] then skip else failure
          match ← peek with
          | none => pure blank
          | some (.version _ _) => pure blank
          | some (.tagDirective _ _) => pure blank
          | some .documentStart => pure blank
          | some .documentEnd => pure blank
          | some _ => node true false fuel
        else node true false fuel
  documentEnds fuel
  if (← peek).isSome then failure
  return content

end Compose

/-- The content of the only document of a text. -/
def Node.ofText? (text : String) : Option Node := do
  let tokens ← Token.ofText? text
  let start : Composer :=
    { tokens := tokens.toList
      handles := [("!", Bytes.ofString "!"), ("!!", Bytes.ofString "tag:yaml.org,2002:")]
      names := [] }
  let (node, _) ← (Compose.document (4 * tokens.size + 8)).run start
  return node

end Harvest.Yaml
