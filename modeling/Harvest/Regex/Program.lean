import Harvest.Regex.Expr

/-!
# Programs

A regular expression as a list of steps, each with the addresses of those that may follow.  An
expression is compiled from its end: given the address to go on at, the steps for it are added and
the address to begin at is found.
-/

namespace Harvest.Regex

open Text (Charset)

/-- A step of a program. -/
inductive Step where
  | char (set : Charset) (next : Nat)
  | byte (set : Charset) (next : Nat)
  | look (look : Look) (next : Nat)
  /-- Marks the place as the start or the end of a group: slot 2·i or 2·i + 1 of group i. -/
  | mark (slot next : Nat)
  /-- Goes on at the first address and, if that leads nowhere, at the second. -/
  | fork (first second : Nat)
  | accept
  deriving Repr

/-- A program under construction. -/
abbrev Assemble := StateM (Array Step)

namespace Assemble

/-- Adds a step and gives its address. -/
def emit (step : Step) : Assemble Nat :=
  modifyGet fun steps => (steps.size, steps.push step)

def put (address : Nat) (step : Step) : Assemble Unit :=
  modify fun steps => steps.setIfInBounds address step

/-- A fork that prefers the first address if it is greedy. -/
def forkTo (greedy : Bool) (first second : Nat) : Step :=
  if greedy then .fork first second else .fork second first

/-- Adds `once` a number of times. -/
def copies (once : Nat → Assemble Nat) : Nat → Nat → Assemble Nat
  | 0, next => return next
  | count + 1, next => do copies once count (← once next)

/-- Adds `once` up to a number of times, each time after a fork to `stop`. -/
def options (once : Nat → Assemble Nat) (greedy : Bool) (stop : Nat) :
    Nat → Nat → Assemble Nat
  | 0, next => return next
  | count + 1, next => do
      let entry ← once next
      options once greedy stop count (← emit (forkTo greedy entry stop))

/-- Adds a loop that takes `once` at least once: the fork behind it leads back to it. -/
def loop (once : Nat → Assemble Nat) (greedy : Bool) (next : Nat) : Assemble Nat := do
  let back ← emit .accept
  let entry ← once back
  put back (forkTo greedy entry next)
  return entry

/-- Adds a repetition; `takesInput` tells that what is repeated never matches the empty text. -/
def repetition (once : Nat → Assemble Nat) (takesInput : Bool) (min : Nat) (max : Option Nat)
    (greedy : Bool) (next : Nat) : Assemble Nat := do
  match max with
  | some max => copies once min (← options once greedy next (max - min) next)
  | none =>
      match min with
      | 0 =>
          if takesInput then
            let back ← emit .accept
            let entry ← once back
            put back (forkTo greedy entry next)
            return back
          else
            let entry ← loop once greedy next
            emit (forkTo greedy entry next)
      | min + 1 => copies once min (← loop once greedy next)

/-- Adds the steps for some bytes one after the other. -/
def literal : Bytes → Nat → Assemble Nat
  | [], next => return next
  | b :: bs, next => do emit (.byte (.singleton b.toNat) (← literal bs next))

/-- Adds the steps of an expression, after which the program goes on at `next`. -/
def expr : Expr → Nat → Assemble Nat
  | .empty, next => return next
  | .literal bytes, next => literal bytes next
  | .char set, next => emit (.char set next)
  | .byte set, next => emit (.byte set next)
  | .look look, next => emit (.look look next)
  | .group index body, next => do
      let stop ← emit (.mark (2 * index + 1) next)
      emit (.mark (2 * index) (← expr body stop))
  | .then a b, next => do expr a (← expr b next)
  | .either a b, next => do
      let first ← expr a next
      let second ← expr b next
      emit (.fork first second)
  | .repeat body min max greedy, next =>
      repetition (expr body) body.takesInput min max greedy next

end Assemble

/-- A compiled regular expression. -/
structure Program where
  steps : Array Step
  start : Nat
  deriving Repr

/-- The program of an expression. -/
def Program.ofExpr (e : Expr) : Program :=
  let (start, steps) := (do Assemble.expr e (← Assemble.emit .accept)).run #[]
  ⟨steps, start⟩

end Harvest.Regex
