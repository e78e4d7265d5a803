import Harvest.Decimal.Layout
import Harvest.Decimal.Reader
import Harvest.Text.Blank
import Harvest.Text.Quoted

/-!
# Tokens of path expressions

`Token.scan` cuts an expression into tokens, each with the byte offset at which it begins.  A
token is the longest one that begins at its place, and blanks separate tokens without belonging to
any.
-/

namespace Harvest.XPath

/-- A token of an expression. -/
inductive Token where
  | slash
  | doubleSlash
  | leftBracket
  | rightBracket
  | leftParen
  | rightParen
  | at
  | dot
  | doubleDot
  | comma
  | pipe
  | star
  | plus
  | minus
  | equal
  | notEqual
  | less
  | lessEqual
  | greater
  | greaterEqual
  | doubleColon
  | literal (s : String)
  | number (x : Float)
  | name (s : String)
  deriving DecidableEq, Repr

/-- The form of a token in error messages. -/
def Token.shown : Token → String
  | slash => "Slash"
  | doubleSlash => "DoubleSlash"
  | leftBracket => "LBracket"
  | rightBracket => "RBracket"
  | leftParen => "LParen"
  | rightParen => "RParen"
  | .at => "At"
  | dot => "Dot"
  | doubleDot => "DotDot"
  | comma => "Comma"
  | pipe => "Pipe"
  | star => "Star"
  | plus => "Plus"
  | minus => "Minus"
  | equal => "Eq"
  | notEqual => "Neq"
  | less => "Lt"
  | lessEqual => "Le"
  | greater => "Gt"
  | greaterEqual => "Ge"
  | doubleColon => "ColonColon"
  | literal s => "Literal(" ++ Text.quote s ++ ")"
  | number x => "Number(" ++ Decimal.pointed.write x ++ ")"
  | name s => "Name(" ++ Text.quote s ++ ")"

/-- What is wrong with an expression. -/
inductive Fault where
  | equalMissing
  | loneColon
  | openLiteral
  | badCharacter (c : Char)
  | empty
  | unexpected (token : Token)
  | expected (token : Token)
  | unknownAxis (name : String)
  | noNodeTest
  | noOperand
  | unknownFunction (name : String)
  | argumentCount (name : String) (count : Nat)
  /-- The recursion of the parser came to its bound before the expression was read. -/
  | exhausted
  deriving DecidableEq, Repr

def Fault.message : Fault → String
  | equalMissing => "expected '=' after '!'"
  | loneColon => "unexpected ':'"
  | openLiteral => "unterminated string literal"
  | badCharacter c => "unexpected character '" ++ c.toString ++ "'"
  | empty => "empty expression"
  | unexpected token => "unexpected token " ++ token.shown
  | expected token => "expected " ++ token.shown
  | unknownAxis name => "unknown axis '" ++ name ++ "'"
  | noNodeTest => "expected node test"
  | noOperand => "expected expression"
  | unknownFunction name => "unknown function '" ++ name ++ "'"
  | argumentCount name count =>
      "wrong number of arguments for '" ++ name ++ "': " ++ toString count
  | exhausted => "expression not read to its end"

/-- A fault and the byte offset in the expression at which it was found. -/
structure Error where
  fault : Fault
  position : Nat
  deriving DecidableEq, Repr

/-- The fault with its position. -/
def Error.message (e : Error) : String :=
  e.fault.message ++ " at position " ++ toString e.position

/-- A token and the byte offset at which it begins. -/
structure Placed where
  token : Token
  offset : Nat
  deriving DecidableEq, Repr

namespace Token

/-- The characters that a name may begin with. -/
def startsName (c : Char) : Bool := c.isAlpha || c == '_' || 0x80 ≤ c.toNat

/-- The characters that a name may go on with. -/
def continuesName (c : Char) : Bool := startsName c || c.isDigit || c == '-' || c == '.'

/-- The characters at the front that satisfy `p`. -/
def run (p : Char → Bool) (cs : List Char) : List Char := cs.takeWhile p

/-- The name that begins with `c` and goes on in `cs`.  One colon may stand inside it, between two
parts that are names themselves. -/
def nameChars (c : Char) (cs : List Char) : List Char :=
  let first := run continuesName cs
  match cs.drop first.length with
  | ':' :: d :: more =>
      if startsName d then c :: first ++ ':' :: d :: run continuesName more else c :: first
  | _ => c :: first

/-- The numeral at the front: digits, and then a point, unless another follows it, with digits. -/
def numeralChars (cs : List Char) : List Char :=
  let whole := run Char.isDigit cs
  match cs.drop whole.length with
  | '.' :: '.' :: _ => whole
  | '.' :: more => whole ++ '.' :: run Char.isDigit more
  | _ => whole

/-- The number that a numeral writes. -/
def numeralValue (cs : List Char) : Float := (Decimal.magnitude? cs).getD 0

/-- The token at the front of `c :: cs` with its number of characters. -/
def first (c : Char) (cs : List Char) : Except Fault (Token × Nat) :=
  match c with
  | '/' =>
      match cs with
      | '/' :: _ => .ok (doubleSlash, 2)
      | _ => .ok (slash, 1)
  | '[' => .ok (leftBracket, 1)
  | ']' => .ok (rightBracket, 1)
  | '(' => .ok (leftParen, 1)
  | ')' => .ok (rightParen, 1)
  | '@' => .ok (.at, 1)
  | ',' => .ok (comma, 1)
  | '|' => .ok (pipe, 1)
  | '*' => .ok (star, 1)
  | '+' => .ok (plus, 1)
  | '-' => .ok (minus, 1)
  | '=' => .ok (equal, 1)
  | '!' =>
      match cs with
      | '=' :: _ => .ok (notEqual, 2)
      | _ => .error .equalMissing
  | '<' =>
      match cs with
      | '=' :: _ => .ok (lessEqual, 2)
      | _ => .ok (less, 1)
  | '>' =>
      match cs with
      | '=' :: _ => .ok (greaterEqual, 2)
      | _ => .ok (greater, 1)
  | ':' =>
      match cs with
      | ':' :: _ => .ok (doubleColon, 2)
      | _ => .error .loneColon
  | '.' =>
      match cs with
      | '.' :: _ => .ok (doubleDot, 2)
      | d :: _ =>
          if d.isDigit then
            let numeral := numeralChars (c :: cs)
            .ok (number (numeralValue numeral), numeral.length)
          else .ok (dot, 1)
      | [] => .ok (dot, 1)
  | c =>
      if c == '"' || c == '\'' then
        let inner := run (· != c) cs
        if inner.length < cs.length then
          .ok (literal (String.ofList inner), inner.length + 2)
        else .error .openLiteral
      else if c.isDigit then
        let numeral := numeralChars (c :: cs)
        .ok (number (numeralValue numeral), numeral.length)
      else if startsName c then
        let chars := nameChars c cs
        .ok (name (String.ofList chars), chars.length)
      else .error (.badCharacter c)

/-- The tokens of an expression, the next character of which has byte offset `offset`; the first
`skip` characters belong to a token that has been read already. -/
def scan (offset skip : Nat) : List Char → Except Error (List Placed)
  | [] => .ok []
  | c :: cs =>
      match skip with
      | skip + 1 => scan (offset + c.utf8Size) skip cs
      | 0 =>
          if Text.isAsciiBlank c then scan (offset + c.utf8Size) 0 cs
          else
            match first c cs with
            | .error fault => .error ⟨fault, offset⟩
            | .ok (token, width) =>
                match scan (offset + c.utf8Size) (width - 1) cs with
                | .error e => .error e
                | .ok rest => .ok (⟨token, offset⟩ :: rest)

end Token

/-- The tokens of an expression. -/
def tokens (source : String) : Except Error (List Placed) := Token.scan 0 0 source.toList

end Harvest.XPath
