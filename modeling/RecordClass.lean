import RecordClass.Decorator
import RecordClass.Docstring
import RecordClass.Event
import RecordClass.Failure
import RecordClass.Field.Assignment
import RecordClass.Field.Basic
import RecordClass.Field.Body
import RecordClass.Field.Declaration
import RecordClass.FieldType
import RecordClass.FilePath
import RecordClass.Import
import RecordClass.Import.Addition
import RecordClass.Json.Basic
import RecordClass.Json.Cursor
import RecordClass.Json.Fault
import RecordClass.Json.Numeral
import RecordClass.Json.Quoted
import RecordClass.Json.Reader
import RecordClass.Json.Writer
import RecordClass.Literal
import RecordClass.Mapping
import RecordClass.Model.Basic
import RecordClass.Model.Choice
import RecordClass.Model.Fields
import RecordClass.Model.Render
import RecordClass.Module
import RecordClass.Number.Basic
import RecordClass.Number.Binary64
import RecordClass.Number.Shortest
import RecordClass.Reference
import RecordClass.Script
import RecordClass.Settings
import RecordClass.Sink
import RecordClass.Store
import RecordClass.Text.Blank
import RecordClass.Text.CamelCase
import RecordClass.Text.Line
import RecordClass.Text.Order
import RecordClass.Text.Visible
import RecordClass.Unicode.Alphanumeric
import RecordClass.Unicode.CaseMapping
import RecordClass.Unicode.LetterCase
import RecordClass.Unicode.Printable
import RecordClass.Unicode.Stretch
import RecordClass.Proofs.Decorator
import RecordClass.Proofs.Docstring.Closing
import RecordClass.Proofs.Docstring.Reader
import RecordClass.Proofs.Field.Accepted
import RecordClass.Proofs.Field.Call
import RecordClass.Proofs.Field.Declared
import RecordClass.Proofs.Field.Equality
import RecordClass.Proofs.Field.Heeded
import RecordClass.Proofs.Field.Hint
import RecordClass.Proofs.Field.Keywords
import RecordClass.Proofs.Field.Line
import RecordClass.Proofs.Field.NoneDefault
import RecordClass.Proofs.Field.OneLine
import RecordClass.Proofs.Field.Pinned
import RecordClass.Proofs.FilePath
import RecordClass.Proofs.Import.Ascending
import RecordClass.Proofs.Import.Block
import RecordClass.Proofs.Import.Canonical
import RecordClass.Proofs.Import.Collected
import RecordClass.Proofs.Import.Placement
import RecordClass.Proofs.Json.Equality
import RecordClass.Proofs.Literal.Falsy
import RecordClass.Proofs.Literal.Layout
import RecordClass.Proofs.Literal.Reader
import RecordClass.Proofs.Literal.Reading
import RecordClass.Proofs.Literal.Spelling
import RecordClass.Proofs.Mapping
import RecordClass.Proofs.Mapping.Insertion
import RecordClass.Proofs.Model.Body
import RecordClass.Proofs.Model.Decorator
import RecordClass.Proofs.Model.Defaults
import RecordClass.Proofs.Model.Equality
import RecordClass.Proofs.Model.Fields
import RecordClass.Proofs.Model.Heeded
import RecordClass.Proofs.Model.Indent
import RecordClass.Proofs.Model.Positions
import RecordClass.Proofs.Model.Sections
import RecordClass.Proofs.Module.Assembly
import RecordClass.Proofs.Module.Imports
import RecordClass.Proofs.Module.Output
import RecordClass.Proofs.Number.Denotation
import RecordClass.Proofs.Number.Spelling
import RecordClass.Proofs.Reference.Composition
import RecordClass.Proofs.Reference.ModuleName
import RecordClass.Proofs.Reference.Splitting
import RecordClass.Proofs.Script
import RecordClass.Proofs.Sink
import RecordClass.Proofs.Text.Indent
import RecordClass.Proofs.Text.Line
import RecordClass.Proofs.Text.Order
import RecordClass.Proofs.Text.Trim
