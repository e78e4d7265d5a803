import Harvest.Regex.Haystack
import Harvest.Regex.Parser
import Harvest.Regex.Program
import Harvest.Regex.Size
import Std.Data.HashSet

/-!
# Searching

The leftmost match of a regular expression, and of those that begin there the one that its order of
alternatives prefers.  The search follows a program with a list of threads, the preferred one first;
a step at a place is tried once only, since a second try would end as the first did.
-/

namespace Harvest

namespace Regex

/-- The slots that a thread has marked, the latest mark first. -/
abbrev Marks := List (Nat × Nat)

/-- A program at work: the step that comes next, the place in the bytes, and the marks so far. -/
structure Thread where
  step : Nat
  place : Nat
  marks : Marks

/-- The threads that follow a thread, the preferred one first. -/
def Thread.next (h : Haystack) (t : Thread) : Step → List Thread
  | .char set next =>
      match h.charAt t.place with
      | some (n, width) => if set.contains n then [⟨next, t.place + width, t.marks⟩] else []
      | none => []
  | .byte set next =>
      match h.byteAt t.place with
      | some n => if set.contains n then [⟨next, t.place + 1, t.marks⟩] else []
      | none => []
  | .look look next => if h.holds look t.place then [⟨next, t.place, t.marks⟩] else []
  | .mark slot next => [⟨next, t.place, (slot, t.place) :: t.marks⟩]
  | .fork first second => [⟨first, t.place, t.marks⟩, ⟨second, t.place, t.marks⟩]
  | .accept => []

/-- The steps and places that have been tried. -/
abbrev Tried := Std.HashSet Nat

/-- Runs threads until one arrives at the end of the program; `fuel` bounds the number of threads
that are looked at. -/
def run (p : Program) (h : Haystack) : Nat → Tried → List Thread → Option Thread × Tried
  | 0, tried, _ => (none, tried)
  | _, tried, [] => (none, tried)
  | fuel + 1, tried, t :: threads =>
      let key := t.step * (h.size + 1) + t.place
      if tried.contains key then run p h fuel tried threads
      else
        match p.steps[t.step]? with
        | none => run p h fuel tried threads
        | some .accept => (some t, tried)
        | some step => run p h fuel (tried.insert key) (t.next h step ++ threads)

/-- Enough fuel for all threads of a search that begins at one place. -/
def enough (p : Program) (h : Haystack) : Nat := 2 * p.steps.size * (h.size + 1) + 2

/-- A match: where it begins and ends, and the marks inside it. -/
structure Match where
  start : Nat
  stop : Nat
  marks : Marks
  deriving Repr

/-- Searches for a match that begins at `start` or at one of the next `count` places. -/
def searchFrom (p : Program) (h : Haystack) (start : Nat) : Nat → Tried → Option Match
  | 0, _ => none
  | count + 1, tried =>
      match run p h (enough p h) tried [⟨p.start, start, []⟩] with
      | (some t, _) => some ⟨start, t.place, t.marks⟩
      | (none, tried) => searchFrom p h (start + 1) count tried

/-- The first match that begins at `start` or later. -/
def searchAt (p : Program) (h : Haystack) (start : Nat) : Option Match :=
  searchFrom p h start (h.size + 1 - start) ∅

/-- The matches from `start` on that do not overlap, where `last` is the end of the match before: an
empty match there is passed over.  `fuel` bounds their number. -/
def matchesFrom (p : Program) (h : Haystack) (last : Option Nat) (start : Nat) :
    Nat → List Match
  | 0 => []
  | fuel + 1 =>
      let found := match searchAt p h start with
        | none => none
        | some m =>
            if m.start = m.stop && some m.stop = last then searchAt p h (start + 1) else some m
      match found with
      | none => []
      | some m => m :: matchesFrom p h (some m.stop) m.stop fuel

namespace Match

/-- The part of the bytes that a group has matched; group 0 is the whole match. -/
def span? (m : Match) (group : Nat) : Option (Nat × Nat) :=
  if group = 0 then some (m.start, m.stop)
  else
    match m.marks.lookup (2 * group), m.marks.lookup (2 * group + 1) with
    | some start, some stop => some (start, stop)
    | _, _ => none

end Match

/-- The bytes of a span. -/
def slice (bytes : Array UInt8) (span : Nat × Nat) : Bytes :=
  (bytes.extract span.1 span.2).toList

end Regex

/-- A regular expression that is ready to be matched. -/
structure Regex where
  program : Regex.Program
  groupCount : Nat
  deriving Repr

namespace Regex

/-- Compiles a pattern; nothing if it is malformed or too large. -/
def compile? (pattern : String) : Option Regex :=
  match Expr.parse? pattern with
  | some e => if e.fits then some ⟨.ofExpr e, e.groupCount⟩ else none
  | none => none

/-- The first match. -/
def find? (r : Regex) (bytes : Bytes) : Option Match :=
  searchAt r.program (.ofBytes bytes) 0

/-- Whether there is a match. -/
def isMatch (r : Regex) (bytes : Bytes) : Bool := (r.find? bytes).isSome

/-- All matches that do not overlap, from the front. -/
def findAll (r : Regex) (bytes : Bytes) : List Match :=
  let h := Haystack.ofBytes bytes
  matchesFrom r.program h none 0 (h.size + 2)

/-- The bytes outside some matches, the first of which begins at `place` or later. -/
def outside (place : Nat) (bytes : Bytes) : List Match → Bytes
  | [] => bytes
  | m :: ms =>
      bytes.take (m.start - place) ++ outside m.stop (bytes.drop (m.stop - place)) ms

/-- The bytes without all matches. -/
def removeAll (r : Regex) (bytes : Bytes) : Bytes := outside 0 bytes (r.findAll bytes)

end Regex

end Harvest
