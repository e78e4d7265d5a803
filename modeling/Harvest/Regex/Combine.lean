import Harvest.Regex.Expr

/-!
# Combining expressions

Expressions put together from others, in a plain form: a set with one member is a literal, literals
that follow each other are one, a sequence holds no sequences and a choice no choices, a choice
between single characters is a set, and what all alternatives begin with stands in front of the
choice.  None of this changes what is matched.
-/

namespace Harvest.Regex

open Text (Charset)

namespace Expr

/-! ## Sets -/

/-- One character of a set. -/
def ofChars (set : Charset) : Expr :=
  let set := set.scalars
  match set.ranges with
  | [] => nothing
  | [(a, b)] => if a = b then literal (Utf8.encode a) else char set
  | _ => char set

/-- One byte of a set. -/
def ofBytes (set : Charset) : Expr :=
  match set.ranges with
  | [(a, b)] => if a = b then literal [a.toUInt8] else byte set
  | _ => byte set

/-! ## Repetitions -/

/-- A repetition.  What matches only the empty text is repeated at most once, and a repetition of
exactly zero or one times is none. -/
def times (body : Expr) (min : Nat) (max : Option Nat) (greedy : Bool) : Expr :=
  let (min, max) :=
    if body.isWidthless then (Nat.min min 1, some ((max.map (Nat.min 1)).getD 1)) else (min, max)
  if max = some 0 then empty
  else if min = 1 && max = some 1 then body
  else .repeat body min max greedy

/-! ## Sequences -/

/-- The expressions that follow each other in an expression. -/
def parts : Expr → List Expr
  | empty => []
  | .then a b => a.parts ++ b.parts
  | e => [e]

/-- Some parts with another in front: two literals become one. -/
def consPart : Expr → List Expr → List Expr
  | literal a, literal b :: es => literal (a ++ b) :: es
  | e, es => e :: es

def ofParts : List Expr → Expr
  | [] => empty
  | [e] => e
  | e :: es => .then e (ofParts es)

/-- The expressions one after the other. -/
def sequence (es : List Expr) : Expr := ofParts ((es.flatMap parts).foldr consPart [])

/-! ## Choices -/

/-- The alternatives of an expression. -/
def choices : Expr → List Expr
  | either a b => a.choices ++ b.choices
  | e => [e]

def ofChoices : List Expr → Expr
  | [] => nothing
  | [e] => e
  | e :: es => either e (ofChoices es)

/-- The set of an expression that is the literal of one character. -/
def oneChar? : Expr → Option Charset
  | literal (b :: bs) =>
      match Utf8.head b bs with
      | .char c width => if width = bs.length + 1 then some (.singleton c.toNat) else none
      | .ill _ => none
  | _ => none

/-- The set of an expression that is the literal of one byte. -/
def oneByte? : Expr → Option Charset
  | literal [b] => some (.singleton b.toNat)
  | _ => none

/-- The set of an expression that is one character of it. -/
def charSet? : Expr → Option Charset
  | char set => some set
  | byte set => if set.isAscii then some set else none
  | _ => none

/-- The set of an expression that is one byte of it. -/
def byteSet? : Expr → Option Charset
  | byte set => some set
  | char set => if set.isAscii then some set else none
  | _ => none

/-- The choice between alternatives that are all single characters or bytes, as one set. -/
def oneOf? (es : List Expr) : Option Expr :=
  let chars (set? : Expr → Option Charset) : Option Expr :=
    (es.mapM set?).map fun sets => ofChars (.unions sets)
  let bytes (set? : Expr → Option Charset) : Option Expr :=
    (es.mapM set?).map fun sets => ofBytes (.unions sets)
  chars oneChar? <|> bytes oneByte? <|> chars charSet? <|> bytes byteSet?

/-- The common beginning of two lists. -/
def common : List Expr → List Expr → List Expr
  | a :: as, b :: bs => if a = b then a :: common as bs else []
  | _, _ => []

/-- What some sequences begin with, all of at least two parts. -/
def front : List Expr → List Expr
  | [] => []
  | e :: es =>
      if (e :: es).all fun e => 1 < e.parts.length then
        es.foldl (fun parts e => common parts e.parts) e.parts
      else []

/-- The number of literals, sets, looks and operators of an expression. -/
def size : Expr → Nat
  | group _ body => body.size + 1
  | .then a b => a.size + b.size + 1
  | either a b => a.size + b.size + 1
  | .repeat body _ _ _ => body.size + 1
  | _ => 1

/-- The first of the expressions that leads to a match; `fuel` bounds how often a common beginning
is taken out. -/
def choose : Nat → List Expr → Expr
  | 0, es => ofChoices es
  | fuel + 1, es =>
      let es := es.flatMap choices
      if es.length ≤ 1 then ofChoices es
      else
        match oneOf? es with
        | some e => e
        | none =>
            match front es with
            | [] => ofChoices es
            | parts =>
                sequence (parts ++
                  [choose fuel (es.map fun e => sequence (e.parts.drop parts.length))])

/-- The first of the expressions that leads to a match. -/
def firstOf (es : List Expr) : Expr := choose ((es.map size).foldr (· + ·) 0 + 1) es

end Expr

end Harvest.Regex
