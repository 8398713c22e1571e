import RecordQuery.Calendar.Date
import RecordQuery.Calendar.Moment
import RecordQuery.Calendar.Pattern
import RecordQuery.Calendar.Reader
import RecordQuery.Calendar.Rendering
import RecordQuery.DataType.Basic
import RecordQuery.DataType.Duration
import RecordQuery.DataType.Reading
import RecordQuery.DataType.Registry
import RecordQuery.DataType.Writing
import RecordQuery.Enumeration
import RecordQuery.Error
import RecordQuery.FormatOptions
import RecordQuery.Json.Basic
import RecordQuery.Json.Number
import RecordQuery.Json.Printer
import RecordQuery.Json.Reader
import RecordQuery.Json.Token
import RecordQuery.Number.Binary64
import RecordQuery.Number.FloatText
import RecordQuery.Number.Integer
import RecordQuery.Number.Shortest
import RecordQuery.Proofs.Calendar.Date
import RecordQuery.Proofs.Calendar.DateChars
import RecordQuery.Proofs.Calendar.DayText
import RecordQuery.Proofs.Calendar.Elapsed
import RecordQuery.Proofs.Calendar.FullWidth
import RecordQuery.Proofs.Calendar.Reader
import RecordQuery.Proofs.Calendar.Rendering
import RecordQuery.Proofs.Calendar.RoundTrip
import RecordQuery.Proofs.DataType.ArrayForms
import RecordQuery.Proofs.DataType.BoundedText
import RecordQuery.Proofs.DataType.ClockText
import RecordQuery.Proofs.DataType.Conversion
import RecordQuery.Proofs.DataType.Days
import RecordQuery.Proofs.DataType.Duration
import RecordQuery.Proofs.DataType.Escaping
import RecordQuery.Proofs.DataType.Instant
import RecordQuery.Proofs.DataType.JsonValue
import RecordQuery.Proofs.DataType.Markup
import RecordQuery.Proofs.DataType.PlainText
import RecordQuery.Proofs.DataType.Projection
import RecordQuery.Proofs.DataType.SafeCollection
import RecordQuery.Proofs.DataType.SafeText
import RecordQuery.Proofs.DataType.Zone
import RecordQuery.Proofs.Enumeration
import RecordQuery.Proofs.Json.Assembly
import RecordQuery.Proofs.Json.Markup
import RecordQuery.Proofs.Json.Number
import RecordQuery.Proofs.Json.Scanning
import RecordQuery.Proofs.Number.Binary64
import RecordQuery.Proofs.Number.Digits
import RecordQuery.Proofs.Number.FloatText
import RecordQuery.Proofs.Number.Integer
import RecordQuery.Proofs.Query.Agreement
import RecordQuery.Proofs.Query.Clauses
import RecordQuery.Proofs.Query.Decoded
import RecordQuery.Proofs.Query.Leaves
import RecordQuery.Proofs.Query.Members
import RecordQuery.Proofs.Query.MomentLiteral
import RecordQuery.Proofs.Query.Normalization
import RecordQuery.Proofs.Query.Omission
import RecordQuery.Proofs.Query.Outcome
import RecordQuery.Proofs.Query.ReadBack
import RecordQuery.Proofs.Query.ReadableForm
import RecordQuery.Proofs.Query.Refusal
import RecordQuery.Proofs.Query.Resolution
import RecordQuery.Proofs.Query.RoundTrip
import RecordQuery.Proofs.Query.Search
import RecordQuery.Proofs.Query.Sending
import RecordQuery.Proofs.Query.SideBySide
import RecordQuery.Proofs.Query.Spelling
import RecordQuery.Proofs.Query.Tree
import RecordQuery.Proofs.Query.Validity
import RecordQuery.Proofs.Query.Views
import RecordQuery.Proofs.Query.Vocabulary
import RecordQuery.Proofs.Query.Walks
import RecordQuery.Proofs.Results
import RecordQuery.Proofs.Schema.Catalog
import RecordQuery.Proofs.Schema.Flattening
import RecordQuery.Proofs.Schema.KeyFields
import RecordQuery.Proofs.Schema.Nested
import RecordQuery.Proofs.Schema.Placeholder
import RecordQuery.Proofs.Schema.Template
import RecordQuery.Proofs.Text.Blank
import RecordQuery.Proofs.Text.Casing
import RecordQuery.Proofs.Text.Markup
import RecordQuery.Proofs.Text.Runs
import RecordQuery.Proofs.Text.Words
import RecordQuery.Proofs.Uuid
import RecordQuery.Query.Component
import RecordQuery.Query.Construction
import RecordQuery.Query.Decoding
import RecordQuery.Query.Encoding
import RecordQuery.Query.Equality
import RecordQuery.Query.Reading
import RecordQuery.Query.Search
import RecordQuery.Query.Syntax
import RecordQuery.Query.Text
import RecordQuery.Query.Validity
import RecordQuery.Query.Vocabulary.Basic
import RecordQuery.Query.Vocabulary.Operators
import RecordQuery.Query.Vocabulary.Tables
import RecordQuery.Query.Vocabulary.Tags
import RecordQuery.Schema.Basic
import RecordQuery.Schema.Catalog
import RecordQuery.Schema.Database
import RecordQuery.Schema.Description
import RecordQuery.Schema.Specifier
import RecordQuery.Schema.Template
import RecordQuery.Text.Basic
import RecordQuery.Text.CaseTable
import RecordQuery.Text.Casing
import RecordQuery.Uuid
import RecordQuery.Value
