import Harvest.Text.Blank
import Harvest.Text.Utf8
import Harvest.Decimal.Layout
import Harvest.Decimal.Reader
import Harvest.Json.Reader
import Harvest.Datum
import Harvest.Text.Quoted
import Harvest.Document.Order
import Harvest.Document.Axis
import Harvest.Document.Markup
import Harvest.XPath.Token
import Harvest.XPath.Expr
import Harvest.XPath.Parser
import Harvest.XPath.Evaluation
import Harvest.Shape
import Harvest.Definition.Basic
import Harvest.Definition.Defect
import Harvest.Html.Token
import Harvest.Html.Construction
import Harvest.Html.Reader
import Harvest.Regex.Search
import Harvest.Document.WorkingCopy
import Harvest.TextFilter
import Harvest.NodeFilter
import Harvest.Definition.Raw
import Harvest.Definition.Json
import Harvest.Plan
import Harvest.Extraction
import Harvest.Extractor
import Harvest.Definition.Xml
import Harvest.Yaml.Lexer
import Harvest.Definition.File
import Harvest.Path
import Harvest.Directory
import Harvest.Folder
import Harvest.Digest.Sha256
import Harvest.Text.FormEncoding
import Harvest.Catalog.Publication
import Harvest.Capture.Archive
import Harvest.Settings
import Harvest.Proofs.Document.Order
import Harvest.Proofs.Document.Places
import Harvest.Proofs.Document.Axis
import Harvest.Proofs.XPath.NodeSet
import Harvest.Proofs.Extraction.Record
import Harvest.Proofs.Plan.Compilation
import Harvest.Proofs.Extraction.Conformance
import Harvest.Proofs.Extraction.Multiplicity
import Harvest.Proofs.Text.Utf8
import Harvest.Proofs.Text.FormEncoding
import Harvest.Proofs.Text.Split
import Harvest.Proofs.Path
import Harvest.Proofs.Directory
import Harvest.Proofs.Definition.Decoding
import Harvest.Proofs.Folder
import Harvest.Proofs.Capture.Naming
import Harvest.Proofs.Capture.History
import Harvest.Proofs.Capture.Listing
import Harvest.Proofs.Capture.Removal
import Harvest.Proofs.Capture.Update
import Harvest.Proofs.Catalog.Accounting
import Harvest.Proofs.Document.Subtree
import Harvest.Proofs.XPath.Downward
import Harvest.Proofs.Document.WorkingCopy
import Harvest.Proofs.Extraction.Locality
import Harvest.Proofs.XPath.Printing
import Harvest.Proofs.XPath.Reading
import Harvest.Proofs.XPath.Parsed
import Harvest.Proofs.XPath.RoundTrip
import Harvest.Proofs.Directory.Lookup
import Harvest.Proofs.Stored
import Harvest.Proofs.Catalog.Reading
import Harvest.Proofs.Catalog.SourceFile
import Harvest.Proofs.Catalog.Application
import Harvest.Proofs.Catalog.Publication
import Harvest.Proofs.Json.RoundTrip
import Harvest.Proofs.Text.Trim
import Harvest.Proofs.Definition.Normal
import Harvest.Proofs.Definition.JsonForm
import Harvest.Proofs.Xml.Writing
import Harvest.Proofs.Definition.Sheet
import Harvest.Proofs.Definition.XmlForm
import Harvest.Proofs.Document.Pruning
import Harvest.Proofs.Extraction.Cleaning
import Harvest.Proofs.Extraction.Structure
import Harvest.Proofs.Capture.Trial
import Harvest.Proofs.Document.Partition
import Harvest.Proofs.Datum
import Harvest.Proofs.Extraction.Unique
import Harvest.Proofs.Extraction.Single
import Harvest.Proofs.Extraction.Relaxing
import Harvest.Proofs.XPath.Comparison
import Harvest.Proofs.XPath.Predicates
import Harvest.Proofs.XPath.Abbreviation
import Harvest.Proofs.XPath.WholeNumber
import Harvest.Proofs.XPath.Proximity
import Harvest.Proofs.Definition.Address
import Harvest.Proofs.Plan.Table
import Harvest.Proofs.Plan.Filling
import Harvest.Proofs.Plan.Arrangement
import Harvest.Proofs.Plan.Defects
import Harvest.Proofs.Plan.Lookup
import Harvest.Proofs.Catalog.Listing
import Harvest.Proofs.Document.RawMarkup
import Harvest.Proofs.Document.Serializers
import Harvest.Proofs.Xml.Marks
import Harvest.Proofs.Xml.Cut
import Harvest.Proofs.Definition.Acceptance
import Harvest.Proofs.Capture.Flushing
import Harvest.Proofs.Decimal.Interval
import Harvest.Proofs.Decimal.Numeral
import Harvest.Proofs.Json.Serialization
import Harvest.Proofs.Xml.Content
import Harvest.Proofs.Definition.LineBreaks
import Harvest.Proofs.Definition.HalfRead
import Harvest.Proofs.Definition.MixedContent
import Harvest.Proofs.Shape
import Harvest.Proofs.Text.Occurrence
import Harvest.Proofs.XPath.Substring
import Harvest.Proofs.XPath.Lexeme
import Harvest.Proofs.XPath.Offsets
import Harvest.Proofs.XPath.Tiling
import Harvest.Proofs.Regex.Search
import Harvest.Proofs.Regex.Groups
import Harvest.Proofs.Extraction.Provenance
import Harvest.Proofs.XPath.Arguments
import Harvest.Proofs.XPath.Halting
import Harvest.Proofs.XPath.Bytewise
import Harvest.Proofs.XPath.Errors
