import SpatialSql.Binary64.Arithmetic
import SpatialSql.Binary64.Basic
import SpatialSql.Binary64.Decimal
import SpatialSql.Binary64.Rounding
import SpatialSql.Binary64.Text
import SpatialSql.Catalog.Memory
import SpatialSql.Catalog.Probe
import SpatialSql.Catalog.Script
import SpatialSql.Dialect
import SpatialSql.Envelope
import SpatialSql.Error
import SpatialSql.Error.Conversion
import SpatialSql.Filter.Column
import SpatialSql.Filter.Compile
import SpatialSql.Filter.Operator
import SpatialSql.Filter.Predicate
import SpatialSql.Geometry.Basic
import SpatialSql.Geometry.Coordinate
import SpatialSql.Geometry.Equality
import SpatialSql.Geometry.Kind
import SpatialSql.Metadata.Cache
import SpatialSql.Metadata.Column
import SpatialSql.Metadata.Resolver
import SpatialSql.Metadata.Statement
import SpatialSql.Proofs.Wkb.Grammar
import SpatialSql.Proofs.Wkb.Heading
import SpatialSql.Proofs.Wkb.Word
import SpatialSql.Row
import SpatialSql.Scalar.Basic
import SpatialSql.Scalar.Calendar
import SpatialSql.Scalar.Reading
import SpatialSql.Settings.Basic
import SpatialSql.Settings.Session
import SpatialSql.Sql
import SpatialSql.Text.Blank
import SpatialSql.Text.CaseFold
import SpatialSql.Text.Hex
import SpatialSql.Text.Integer
import SpatialSql.Text.Quoted
import SpatialSql.Text.Search
import SpatialSql.Tree.Basic
import SpatialSql.Tree.Column
import SpatialSql.Tree.Geometry
import SpatialSql.Tree.Scalar
import SpatialSql.Wkb.Codec
import SpatialSql.Wkb.Format
import SpatialSql.Wkb.Reading
import SpatialSql.Wkb.Writing
import SpatialSql.Wkt.Reading
import SpatialSql.Wkt.Token
import SpatialSql.Wkt.Writing
import SpatialSql.Proofs.Wkb.Acceptance
import SpatialSql.Proofs.Geometry.Ring
import SpatialSql.Proofs.Wkb.Bodies
import SpatialSql.Proofs.Wkb.HeaderCodes
import SpatialSql.Proofs.Wkb.Decoding
import SpatialSql.Proofs.Geometry.Parts
import SpatialSql.Proofs.Wkb.Canonical
import SpatialSql.Proofs.Wkb.Encoding
import SpatialSql.Proofs.Wkb.RoundTrip
import SpatialSql.Proofs.Sql.Token
import SpatialSql.Proofs.Sql.Fragment
import SpatialSql.Proofs.Sql.Numeral
import SpatialSql.Proofs.Filter.Operator
import SpatialSql.Proofs.Filter.Template
import SpatialSql.Proofs.Sql.Condition
import SpatialSql.Proofs.Filter.Meaning
import SpatialSql.Proofs.Sql.Outside
import SpatialSql.Proofs.Filter.Quoting
import SpatialSql.Proofs.Binary64.Rounding
import SpatialSql.Proofs.Binary64.Shortest
import SpatialSql.Proofs.Binary64.Text
import SpatialSql.Proofs.Wkt.Grammar
import SpatialSql.Proofs.Wkt.Acceptance
import SpatialSql.Proofs.Wkt.Legible
import SpatialSql.Proofs.Wkt.Unambiguity
import SpatialSql.Proofs.Wkt.Rewriting
import SpatialSql.Proofs.Wkt.Spelling
import SpatialSql.Proofs.Wkt.Written
import SpatialSql.Proofs.Wkt.RoundTrip
import SpatialSql.Proofs.Wkt.Exchange
import SpatialSql.Proofs.Binary64.Order
import SpatialSql.Proofs.Tree.Geometry
import SpatialSql.Proofs.Geometry.Building
import SpatialSql.Proofs.Binary64.Extrema
import SpatialSql.Proofs.Envelope.Joining
import SpatialSql.Proofs.Envelope.Algebra
import SpatialSql.Proofs.Envelope.Tightness
import SpatialSql.Proofs.Geometry.Emptiness
import SpatialSql.Proofs.Metadata.Cache
import SpatialSql.Proofs.Metadata.Description
import SpatialSql.Proofs.Metadata.Session
import SpatialSql.Proofs.Metadata.Transparency
import SpatialSql.Proofs.Metadata.Fallback
import SpatialSql.Proofs.Filter.Buffer
import SpatialSql.Proofs.Filter.Support
import SpatialSql.Proofs.Wkb.TypeCodes
import SpatialSql.Proofs.Wkb.Reencoding
import SpatialSql.Proofs.Text.Quoted
import SpatialSql.Proofs.Catalog.History
import SpatialSql.Proofs.Metadata.Lookup
import SpatialSql.Proofs.Wkb.Counters
import SpatialSql.Proofs.Wkb.Steadiness
import SpatialSql.Proofs.Wkb.Delimiting
import SpatialSql.Proofs.Wkb.Foresight
import SpatialSql.Proofs.Wkb.Reservation
import SpatialSql.Proofs.Wkb.CountCheck
import SpatialSql.Proofs.Metadata.Batch
import SpatialSql.Proofs.Metadata.Contents
import SpatialSql.Proofs.Envelope.Surrounding
import SpatialSql.Proofs.Metadata.Estimate
import SpatialSql.Proofs.Wkt.Constructor
import SpatialSql.Proofs.Filter.Operands
import SpatialSql.Proofs.Filter.Loose
import SpatialSql.Proofs.Geometry.Normalization
import SpatialSql.Proofs.Geometry.Rectangle
import SpatialSql.Proofs.Metadata.Folding
import SpatialSql.Proofs.Text.LetterCase
import SpatialSql.Proofs.Text.Hex
import SpatialSql.Proofs.Tree.Envelope
import SpatialSql.Proofs.Wkb.Cell
import SpatialSql.Proofs.Binary64.LetterCase
import SpatialSql.Proofs.Wkt.Layout
import SpatialSql.Proofs.Association
import SpatialSql.Proofs.Row.Addressing
import SpatialSql.Proofs.Metadata.Quotation
import SpatialSql.Proofs.Metadata.Binding
import SpatialSql.Proofs.Wkt.Ordinates
import SpatialSql.Proofs.Settings.Construction
import SpatialSql.Proofs.Settings.Session
import SpatialSql.Proofs.Metadata.Schema
import SpatialSql.Proofs.Settings.Sharing
