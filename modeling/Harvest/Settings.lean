import Harvest.Decimal.Reader
import Harvest.Json.Reader
import Harvest.Path

/-!
# Settings

Where definitions and captures are kept, and how pages are asked for.  What is not set by the
environment or by a JSON text has a default.
-/

namespace Harvest

structure Settings where
  /-- The folder of definitions. -/
  definitions : String := "patterns"
  /-- The folder of captures. -/
  captures : String := "samples"
  /-- The name given to servers. -/
  agent : String := "descry/0.1.0"
  /-- How many seconds a page may take. -/
  patience : Nat := 30
  deriving Repr

namespace Settings

/-- Whether nothing differs from the defaults; paths are compared by where they lead. -/
def isDefault (s : Settings) : Bool :=
  Path.same s.definitions ({} : Settings).definitions &&
    Path.same s.captures ({} : Settings).captures &&
    s.agent == ({} : Settings).agent && s.patience == ({} : Settings).patience

/-! ## The environment -/

/-- The text that the environment sets, or a default; an empty text counts for nothing. -/
def text (default : String) : Option String → String
  | some s => if s.isEmpty then default else s
  | none => default

/-- The number that the environment sets, or a default; what is no number counts for nothing. -/
def number (default : Nat) : Option String → Nat
  | some s => (Decimal.unsigned64? (Text.trimChars s.toList)).getD default
  | none => default

/-- The settings of an environment, which gives values to names. -/
def ofEnvironment (value? : String → Option String) : Settings :=
  { definitions := text ({} : Settings).definitions (value? "PATTERNS_DIR")
    captures := text ({} : Settings).captures (value? "SAMPLES_DIR")
    agent := text ({} : Settings).agent (value? "DESCRY_USER_AGENT")
    patience := number ({} : Settings).patience (value? "DESCRY_FETCH_TIMEOUT") }

/-! ## JSON -/

/-- The names of the members, in the order in which an array gives their values. -/
def names : List String := ["patterns_dir", "samples_dir", "user_agent", "fetch_timeout_secs"]

/-- The values under the names, of which none may be given twice. -/
def slots? : Json → Option (List (Option Json))
  | .object members =>
      names.mapM fun name =>
        match members.filter fun m => m.1 == name with
        | [] => some none
        | [m] => some (some m.2)
        | _ => none
  | .array items =>
      if items.length ≤ names.length then
        some (items.map some ++ List.replicate (names.length - items.length) none)
      else none
  | _ => none

/-- A text, or a default where nothing is given. -/
def text? (default : String) : Option Json → Option String
  | none => some default
  | some (.text s) => some s
  | some _ => none

/-- A number of 64 bits without sign, or a default where nothing is given. -/
def number? (default : Nat) : Option Json → Option Nat
  | none => some default
  | some (.int n) => if 0 ≤ n then some n.toNat else none
  | some _ => none

/-- The settings of a JSON value.  Members with other names count for nothing. -/
def ofJsonValue? (v : Json) : Option Settings :=
  match slots? v with
  | some [definitions, captures, agent, patience] => do
      let definitions ← text? ({} : Settings).definitions definitions
      let captures ← text? ({} : Settings).captures captures
      let agent ← text? ({} : Settings).agent agent
      let patience ← number? ({} : Settings).patience patience
      return { definitions, captures, agent, patience }
  | _ => none

/-- The settings in a JSON text. -/
def ofJson? (source : String) : Option Settings := (Json.parse? source).bind ofJsonValue?

end Settings

end Harvest
