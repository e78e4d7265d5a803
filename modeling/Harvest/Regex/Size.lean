import Harvest.Regex.ByteSequence
import Harvest.Regex.Expr
import Std.Data.HashMap

/-!
# Sizes

A pattern is refused if it is too large.  Its size is that of an automaton over bytes which finds
its matches: 32 bytes for a state, 8 more for each of several byte ranges that a state reads, and 4
more for each state that a state without a byte may go on to.  The automaton that reads backwards
is measured too.  Counting ends as soon as there is too much.
-/

namespace Harvest.Regex

open Text (Charset)

/-- Which way an automaton reads. -/
inductive Direction where
  | forward
  | backward
  deriving DecidableEq, Repr

/-- The size of an automaton: the number of its states and their bytes. -/
structure Size where
  states : Nat
  bytes : Nat
  deriving Repr

namespace Size

/-- The greatest number of bytes. -/
def limit : Nat := 10 * 0x100000

/-- What is added to a size, unless it comes to too much. -/
abbrev Growth := Size → Option Size

/-- Adds some states that have some bytes beside their own. -/
def add (states bytes : Nat) : Growth := fun size =>
  let size := ⟨size.states + states, size.bytes + 32 * states + bytes⟩
  if size.bytes ≤ limit then some size else none

/-- Adds the same a number of times. -/
def copies (once : Growth) : Nat → Growth
  | 0, size => some size
  | count + 1, size =>
      match once size with
      | some size => copies once count size
      | none => none

/-! ## Sets of characters -/

/-- States that have been added, for each slot the key of one and its number.  A state whose key
has been seen is not added again, unless another took its slot. -/
abbrev Seen := Std.HashMap Nat (List Nat × Nat)

/-- Adding states of which some are the same. -/
abbrev Sharing := StateT (Seen × Size) Option

/-- The slot of a key among a number of slots. -/
def slot (slots : Nat) (key : List Nat) : Nat :=
  let hash : UInt64 := key.foldl (fun h n => (h ^^^ n.toUInt64) * 1099511628211)
    14695981039346656037
  hash.toNat % slots

/-- The number of the state with a key, which is added with some more bytes if it is new. -/
def share (slots : Nat) (key : List Nat) (bytes : Nat) : Sharing Nat := do
  let (seen, size) ← get
  let place := slot slots key
  let known := match seen[place]? with
    | some (other, number) => if other = key then some number else none
    | none => none
  match known with
  | some number => return number
  | none =>
      match add 1 bytes size with
      | some grown =>
          set (seen.insert place (key, size.states), grown)
          return size.states
      | none => failure

/-- Adds the state that reads some sequences forward to the state `target`, after those that read
what follows their first bytes.  No sequence is longer than `length`. -/
def forwardState (target : Nat) : Nat → List ByteSequence → Sharing Nat
  | 0, _ => return target
  | length + 1, sequences =>
      if sequences.all List.isEmpty then return target
      else do
        let groups := sequences.splitBy fun a b => a.head? == b.head?
        let key ← groups.mapM fun group => do
          match group.head?.bind List.head? with
          | some range =>
              let next ← forwardState target length (group.map (List.drop 1))
              return [range.first, range.last, next]
          | none => return []
        share 10000 key.flatten (8 * key.length)

/-- Adds the states that read a sequence backwards to the state `target`. -/
def backwardStates (target : Nat) (ranges : ByteSequence) : Sharing Nat :=
  ranges.foldlM (fun next range => share 1000 [next, range.first, range.last] 0) target

/-- Adds one character of a set. -/
def char (direction : Direction) (set : Charset) : Growth := fun size =>
  if set.isAscii then add 2 (8 * set.ranges.length) size
  else
    let sequences := ByteSequence.ofSet set
    match direction with
    | .forward => do
        let (_, _, grown) ← (forwardState size.states 4 sequences).run (∅, ← add 1 0 size)
        return grown
    | .backward => do
        let start ← add 2 (4 * sequences.length) size
        let (_, _, grown) ←
          (sequences.forM fun s => discard (backwardStates (size.states + 1) s)).run (∅, start)
        return grown

/-! ## Literals -/

/-- The pieces of a list between its empty members. -/
def pieces (texts : List Bytes) : List (List Bytes) :=
  match texts with
  | [] => [[]]
  | [] :: rest => [] :: pieces rest
  | text :: rest =>
      match pieces rest with
      | [] => [[text]]
      | piece :: more => (text :: piece) :: more

/-- The bytes that some texts begin with, each once. -/
def firstBytes (texts : List Bytes) : List UInt8 := (texts.filterMap List.head?).eraseDups

/-- What follows a byte in the texts that begin with it. -/
def after (b : UInt8) (texts : List Bytes) : List Bytes :=
  texts.filterMap fun
    | [] => none
    | c :: cs => if c = b then some cs else none

/-- The states and the bytes beside them of a tree that reads some texts, in their order of
preference.  Where a text ends in the tree the bytes behind it are read by a state of their own. -/
def tree : Nat → List Bytes → Nat × Nat
  | 0, _ => (0, 0)
  | length + 1, texts =>
      if texts.all List.isEmpty then (0, 0)
      else
        let pieces := match pieces texts with
          | [] :: rest => [] :: rest.dropWhile List.isEmpty
          | pieces => pieces
        let own := pieces.map fun piece =>
          let branches := (firstBytes piece).length
          (if branches = 0 then 0 else 1, if 1 < branches then 8 * branches else 0)
        let inner := pieces.flatMap fun piece =>
          (firstBytes piece).map fun b => tree length (after b piece)
        let states := (own.map Prod.fst).sum
        (1 + states + (inner.map Prod.fst).sum,
          4 * (states + (pieces.length - 1)) + (own.map Prod.snd).sum + (inner.map Prod.snd).sum)

/-- The texts of a choice between literals. -/
def literals? : Expr → Option (List Bytes)
  | .either (.literal a) rest => (literals? rest).map (a :: ·)
  | .literal a => some [a]
  | _ => none

/-- Adds a choice between literals. -/
def choice (direction : Direction) (texts : List Bytes) : Growth :=
  let texts := if direction = .forward then texts else texts.map List.reverse
  let longest := (texts.map List.length).foldl Nat.max 0
  let (states, bytes) := tree (longest + 1) texts
  add (states + 1) bytes

/-! ## Expressions -/

/-- Where an expression stands in a choice: it is none of the alternatives, or it holds those from
the second or from a later one on. -/
inductive Rank where
  | alone
  | second
  | later

/-- Adds what joins an alternative to those before it. -/
def Rank.join : Rank → Growth
  | alone => some
  | second => add 2 8
  | later => add 0 4

/-- Adds a repetition. -/
def repetition (once : Growth) (takesInput : Bool) (min : Nat) (max : Option Nat) : Growth :=
  fun size =>
    match min, max with
    | 0, some 1 => do add 1 0 (← once (← add 1 8 size))
    | 0, none =>
        if takesInput then do once (← add 1 8 size)
        else do add 3 16 (← once size)
    | min, none => do add 1 8 (← copies once min size)
    | min, some max =>
        if min = max then copies once min size
        else do
          let front ← if min = 0 then add 1 0 size else copies once min size
          copies (fun size => do once (← add 1 8 size)) (max - min) (← add 1 0 front)

/-- Adds an expression. -/
def expr (direction : Direction) : Expr → Rank → Growth
  | .empty, rank, size => do rank.join (← add 1 0 size)
  | .literal bytes, rank, size => do rank.join (← add bytes.length 0 size)
  | .char set, rank, size => do rank.join (← char direction set size)
  | .byte set, rank, size => do rank.join (← add 2 (8 * set.ranges.length) size)
  | .look _, rank, size => do rank.join (← add 1 0 size)
  | .group _ body, rank, size =>
      match direction with
      | .forward => do rank.join (← add 1 0 (← expr direction body .alone (← add 1 0 size)))
      | .backward => do rank.join (← expr direction body .alone size)
  | .then a b, rank, size =>
      match direction with
      | .forward => do rank.join (← expr direction b .alone (← expr direction a .alone size))
      | .backward => do rank.join (← expr direction a .alone (← expr direction b .alone size))
  | .either a b, rank, size =>
      match rank with
      | .alone =>
          match literals? (.either a b) with
          | some texts => choice direction texts size
          | none => do expr direction b .second (← expr direction a .alone size)
      | rank => do expr direction b .later (← rank.join (← expr direction a .alone size))
  | .repeat body min max _, rank, size => do
      rank.join
        (← repetition (expr direction body .alone) body.takesInput min max size)

/-- The size of the automaton of an expression, unless it is too large.  In front of it, bytes are
passed over where a match may begin at any place. -/
def ofExpr? (direction : Direction) (e : Expr) : Option Size := do
  let isBound := if direction = .forward then e.isStart else e.isStop
  let start ← if isBound then add 1 0 ⟨0, 0⟩ else add 3 16 ⟨0, 0⟩
  match direction with
  | .forward => add 2 0 (← expr direction e .alone (← add 1 0 start))
  | .backward => add 1 0 (← expr direction e .alone start)

end Size

/-- Whether an expression is not too large. -/
def Expr.fits (e : Expr) : Bool :=
  (Size.ofExpr? .forward e).isSome && (Size.ofExpr? .backward e).isSome

end Harvest.Regex
