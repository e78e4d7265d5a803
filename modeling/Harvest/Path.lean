import Harvest.Text.Blank

/-!
# Paths

Paths of files: names with a slash between them.  Empty parts of a path and single dots lead
nowhere, except for a dot at the front, which tells the path from one that begins with a name.
-/

namespace Harvest.Path

/-- Whether a path starts at the root. -/
def isAbsolute (path : String) : Bool := path.startsWith "/"

/-- The path of what is called `name` in the directory at `base`.  An absolute name needs no
directory. -/
def join (base name : String) : String :=
  if isAbsolute name then name
  else if base.isEmpty || base.endsWith "/" then base ++ name
  else base ++ "/" ++ name

/-- The names on the way along a path. -/
def names (path : String) : List String :=
  (Text.splitAt '/' path).filter fun part => part ≠ "" && part ≠ "."

/-- The parts that make up a path. -/
def parts (path : String) : List String :=
  match Text.splitAt '/' path with
  | "." :: _ => "." :: names path
  | _ => names path

/-- Whether two paths are the same but for parts that lead nowhere. -/
def same (path other : String) : Bool :=
  isAbsolute path == isAbsolute other && parts path == parts other

/-- The name of the file at a path: its last part.  Two dots name no file. -/
def fileName? (path : String) : Option String :=
  match (names path).getLast? with
  | some name => if name = ".." then none else some name
  | none => none

/-- The ending of a name: what stands behind its last dot, if anything stands in front of that. -/
def ending? (name : String) : Option String :=
  match (Text.splitAt '.' name).reverse with
  | ending :: before :: more =>
      if more.isEmpty && before.isEmpty then none else some ending
  | _ => none

end Harvest.Path
