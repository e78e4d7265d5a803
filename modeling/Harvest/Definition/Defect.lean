import Harvest.XPath.Token

/-!
# Defects

Why a definition cannot be used: it does not compile, it cannot be decoded, or its file cannot be
read.  Each defect has a message and a chain of causes behind it.  The wording of what is wrong
inside a regular expression or a file is left open and shown as `detail`.
-/

namespace Harvest

/-- Stands for wording that is left open. -/
def detail : String := "<detail>"

/-- What someone who asks is told: a message, and the texts of the causes behind it. -/
structure Report where
  message : String
  cause : String
  deriving DecidableEq, Repr

/-- The place of a line among the rules of a field. -/
inductive Rule where
  | path
  | submatch
  | includes
  | excludes
  | removes
  deriving DecidableEq, Repr

def Rule.word : Rule → String
  | path => "Path"
  | submatch => "Submatch"
  | includes => "Include"
  | excludes => "Exclude"
  | removes => "Remove"

/-- Why a definition does not compile. -/
inductive Defect where
  | unknownType (token : String)
  | typeMissing (title : String)
  | badRegex (rule : Rule) (line : String)
  | badQuery (rule : Rule) (line : String) (error : XPath.Error)
  | inField (title : String) (defect : Defect)
  | unknownMime (mime : String)
  deriving DecidableEq, Repr

namespace Defect

def message : Defect → String
  | unknownType token => "unrecognized type '" ++ token ++ "'"
  | typeMissing title => "failed to compile '" ++ title ++ "': field missing type"
  | badRegex rule line => "regex '" ++ rule.word ++ "' error in line '" ++ line ++ "'"
  | badQuery rule line _ => "XPath '" ++ rule.word ++ "' error in expression '" ++ line ++ "'"
  | inField title defect => "field '" ++ title ++ "': " ++ defect.message
  | unknownMime mime => "unsupported pattern mime '" ++ mime ++ "'"

/-- The causes behind the defect, the nearest first. -/
def causes : Defect → List String
  | badRegex _ _ => [detail]
  | badQuery _ _ error => [error.message]
  | inField _ defect => defect.message :: defect.causes
  | _ => []

/-- The defect as one of the field with a title.  What already names a field keeps that name. -/
def within (title : String) : Defect → Defect
  | inField inner defect => inField inner defect
  | typeMissing inner => typeMissing inner
  | defect => inField title defect

end Defect

/-- Why a text is not a definition. -/
inductive DecodeError where
  | xml
  | xmlAttribute
  | fieldMissing
  | yaml
  | json
  | unknownFormat (path : String)
  deriving DecidableEq, Repr

namespace DecodeError

def message : DecodeError → String
  | xml => "XML pattern error: " ++ detail
  | xmlAttribute => "XML pattern error: " ++ detail
  | fieldMissing => "XML pattern is missing its root <Field>"
  | yaml => "YAML pattern error: " ++ detail
  | json => "JSON pattern error: " ++ detail
  | unknownFormat path => "unsupported pattern file extension: " ++ path

/-- The causes behind the error. -/
def causes : DecodeError → List String
  | xml => [detail]
  | xmlAttribute => [detail]
  | yaml => [detail]
  | json => [detail]
  | fieldMissing => []
  | unknownFormat _ => []

end DecodeError

/-- Why a file or directory of definitions did not load, with its path as it is shown. -/
inductive LoadError where
  | unreadable (path : String)
  | undecodable (path : String) (error : DecodeError)
  | uncompilable (path : String) (defect : Defect)
  deriving DecidableEq, Repr

namespace LoadError

def message : LoadError → String
  | unreadable path => "unable to read " ++ path ++ ": " ++ detail
  | undecodable path error =>
      "pattern " ++ path ++ " could not be decoded: " ++ error.message
  | uncompilable path defect =>
      "pattern " ++ path ++ " compilation error: " ++ defect.message

/-- The causes behind the error. -/
def causes : LoadError → List String
  | unreadable _ => [detail]
  | undecodable _ error => error.message :: error.causes
  | uncompilable _ defect => defect.message :: defect.causes

end LoadError

/-- Whether a text ends in open wording. -/
def endsOpen (s : String) : Bool := s.endsWith detail

/-- The causes up to the first that ends in open wording: what lies behind that is open too. -/
def untilOpen : List String → List String
  | [] => []
  | s :: ss => if endsOpen s then [s] else s :: untilOpen ss

/-- The report of a message with a chain of causes. -/
def Report.of (message : String) (causes : List String) : Report :=
  ⟨message, ": ".intercalate (untilOpen causes)⟩

def Defect.report (defect : Defect) : Report := .of defect.message defect.causes

def DecodeError.report (error : DecodeError) : Report := .of error.message error.causes

def LoadError.report (error : LoadError) : Report := .of error.message error.causes

end Harvest
