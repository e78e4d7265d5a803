import Harvest.Document.Basic

/-!
# Markup

Two ways of writing a node as markup.  The raw serializer writes the tree as it stands; the
standard one follows the serialization algorithm of HTML, which knows more elements without an end
tag and also escapes the no-break space.  Inside elements whose text is raw neither escapes.
-/

namespace Harvest

/-- A way of writing nodes as markup. -/
inductive Serializer where
  | raw
  | standard
  deriving DecidableEq, Repr

namespace Markup

/-- The elements that the raw serializer writes without content and end tag. -/
def voidElements : List String :=
  ["area", "base", "br", "col", "embed", "hr", "img", "input", "link", "meta", "param", "source",
    "track", "wbr"]

/-- The elements that the standard serializer writes without an end tag. -/
def standardVoidElements : List String :=
  ["area", "base", "basefont", "bgsound", "br", "col", "embed", "frame", "hr", "img", "input",
    "keygen", "link", "meta", "param", "source", "track", "wbr"]

/-- The elements whose text is written without escapes. -/
def rawTextElements : List String :=
  ["script", "style", "xmp", "iframe", "noembed", "noframes", "plaintext"]

/-- Whether the raw serializer writes the text inside a node without escapes; the vocabulary of
the element does not count. -/
def holdsRawText (content : Content) : Bool :=
  match content with
  | .element _ name _ => rawTextElements.contains name
  | _ => false

/-- Whether the standard serializer knows an element by name: only elements of HTML are. -/
def isKnown (names : List String) (vocabulary : Vocabulary) (name : String) : Bool :=
  vocabulary == .html && names.contains name

def escapeText (c : Char) : List Char :=
  match c with
  | '&' => "&amp;".toList
  | '<' => "&lt;".toList
  | '>' => "&gt;".toList
  | c => [c]

def escapeValue (c : Char) : List Char :=
  match c with
  | '&' => "&amp;".toList
  | '"' => "&quot;".toList
  | c => [c]

/-- Escapes by `escape`, and the no-break space as well. -/
def escapeSpace (escape : Char → List Char) (c : Char) : List Char :=
  if c.toNat = 0xA0 then "&nbsp;".toList else escape c

/-- A start tag; `title` writes the names of attributes, and `escape` is applied to the characters
of their values. -/
def startTag (title : Attribute → List Char) (escape : Char → List Char) (name : String)
    (attributes : List Attribute) : List Char :=
  '<' :: name.toList ++ attributes.flatMap (fun a =>
    ' ' :: title a ++ '=' :: '"' :: a.value.toList.flatMap escape ++ ['"']) ++ ['>']

/-- The name of an attribute without its qualifier. -/
def bareTitle (a : Attribute) : List Char := a.name.toList

/-- The name of an attribute behind its qualifier, if that is not empty. -/
def qualifiedTitle (a : Attribute) : List Char :=
  match a.qualifier with
  | none | some "" => a.name.toList
  | some qualifier => qualifier.toList ++ ':' :: a.name.toList

def endTag (name : String) : List Char := '<' :: '/' :: name.toList ++ ['>']

def commentChars (s : String) : List Char := "<!--".toList ++ s.toList ++ "-->".toList

mutual

/-- A node by the raw serializer; `inRaw` tells that text here is raw. -/
def rawChars (inRaw : Bool) : Tree → List Char
  | .node (.element _ name attributes) children =>
      startTag bareTitle escapeValue name attributes ++
        if voidElements.contains name then []
        else rawAll (rawTextElements.contains name) children ++ endTag name
  | .node (.text s) _ => if inRaw then s.toList else s.toList.flatMap escapeText
  | .node (.comment s) _ => commentChars s
  | .node .document children => rawAll false children
  | .node .fragment children => rawAll false children
  | .node (.doctype _) _ => []
  | .node (.instruction _ _) _ => []

def rawAll (inRaw : Bool) : List Tree → List Char
  | [] => []
  | t :: ts => rawChars inRaw t ++ rawAll inRaw ts

end

mutual

/-- A node inside an element by the standard serializer; `inRaw` tells that text here is raw, and
`muted` that the element around has no end tag, so that no tags are written inside it. -/
def standardChars (inRaw muted : Bool) : Tree → List Char
  | .node (.element vocabulary name attributes) children =>
      let inner := isKnown rawTextElements vocabulary name
      if muted then standardAll inner true children
      else
        let isVoid := isKnown standardVoidElements vocabulary name
        startTag qualifiedTitle (escapeSpace escapeValue) name attributes ++
          standardAll inner isVoid children ++ if isVoid then [] else endTag name
  | .node (.text s) children =>
      (if inRaw then s.toList else s.toList.flatMap (escapeSpace escapeText)) ++
        standardAll inRaw muted children
  | .node (.comment s) children => commentChars s ++ standardAll inRaw muted children
  | .node (.doctype name) children =>
      "<!DOCTYPE ".toList ++ name.toList ++ ['>'] ++ standardAll inRaw muted children
  | .node _ children => standardAll inRaw muted children

def standardAll (inRaw muted : Bool) : List Tree → List Char
  | [] => []
  | t :: ts => standardChars inRaw muted t ++ standardAll inRaw muted ts

end

mutual

/-- A node of any kind by the standard serializer: the algorithm proper starts at elements, and
above them texts are escaped as usual and only comments are written besides. -/
def standardOuter : Tree → List Char
  | .node (.element vocabulary name attributes) children =>
      standardChars false false (.node (.element vocabulary name attributes) children)
  | .node (.text s) _ => s.toList.flatMap escapeText
  | .node (.comment s) _ => commentChars s
  | .node .document children => standardOuterAll children
  | .node .fragment children => standardOuterAll children
  | .node (.doctype _) _ => []
  | .node (.instruction _ _) _ => []

def standardOuterAll : List Tree → List Char
  | [] => []
  | t :: ts => standardOuter t ++ standardOuterAll ts

end

end Markup

/-- The markup of a node; `inRaw` tells that its parent holds raw text. -/
def Tree.markup (serializer : Serializer) (inRaw : Bool) (t : Tree) : String :=
  match serializer with
  | .raw => String.ofList (Markup.rawChars inRaw t)
  | .standard => String.ofList (Markup.standardOuter t)

/-- Whether the node at an address stands in an element whose text is raw. -/
def Document.inRawText (doc : Document) (path : Path) : Bool :=
  !path.isEmpty && ((doc.content? path.dropLast).map Markup.holdsRawText).getD false

/-- The markup of a place: for an attribute its value. -/
def Document.markup (doc : Document) (serializer : Serializer) (place : Place) : String :=
  match place.index with
  | some _ => doc.stringValue place
  | none =>
      ((doc.node? place.path).map
        (Tree.markup serializer (doc.inRawText place.path))).getD ""

end Harvest
