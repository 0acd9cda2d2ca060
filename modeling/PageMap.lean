import PageMap.Calendar.Date
import PageMap.Calendar.Moment
import PageMap.Color
import PageMap.Color.Palette
import PageMap.DateFormat
import PageMap.DateFormat.Item
import PageMap.Decimal.Basic
import PageMap.Decimal.Binary
import PageMap.Decimal.Shortest
import PageMap.Dictionary
import PageMap.Document.Basic
import PageMap.Document.Config
import PageMap.Document.Page
import PageMap.Double
import PageMap.DrawOp
import PageMap.FormatError
import PageMap.Formats
import PageMap.Geometry
import PageMap.ImageStore
import PageMap.Json.Basic
import PageMap.Json.Fields
import PageMap.Json.Number
import PageMap.Json.Path
import PageMap.Json.Written
import PageMap.Layout.Builder
import PageMap.Layout.Cascade
import PageMap.Layout.Element.Constants
import PageMap.Layout.Element.Container
import PageMap.Layout.Element.Image
import PageMap.Layout.Element.Text
import PageMap.Layout.Error
import PageMap.Layout.Flow
import PageMap.Layout.Item
import PageMap.Layout.Renderer
import PageMap.Layout.Renderers
import PageMap.Layout.Resolver
import PageMap.Layout.Services
import PageMap.Layout.Site
import PageMap.Layout.Walk
import PageMap.Main
import PageMap.Markup.Node
import PageMap.NumberFormat
import PageMap.NumberFormat.Section
import PageMap.NumberFormat.Token
import PageMap.PageSize
import PageMap.Pipeline.Basic
import PageMap.Pipeline.Command
import PageMap.Pipeline.Config
import PageMap.Proofs.Attribute.Keyword
import PageMap.Proofs.Attribute.Numeral
import PageMap.Proofs.Attribute.Word
import PageMap.Proofs.Binding
import PageMap.Proofs.Builtin
import PageMap.Proofs.Cascade
import PageMap.Proofs.Color
import PageMap.Proofs.Crash
import PageMap.Proofs.DateFormat
import PageMap.Proofs.Decimal.Nearest
import PageMap.Proofs.Dictionary
import PageMap.Proofs.Drawing
import PageMap.Proofs.Fitting
import PageMap.Proofs.Floats
import PageMap.Proofs.FlowPlacement
import PageMap.Proofs.Freshness
import PageMap.Proofs.History
import PageMap.Proofs.Interpreter
import PageMap.Proofs.KeyPath
import PageMap.Proofs.LexicalScope
import PageMap.Proofs.Lives
import PageMap.Proofs.Loading
import PageMap.Proofs.Notices
import PageMap.Proofs.NumberFormat.Compiled
import PageMap.Proofs.NumberFormat.Consistency
import PageMap.Proofs.NumberFormat.Digits
import PageMap.Proofs.NumberFormat.Language
import PageMap.Proofs.NumberFormat.Lexeme
import PageMap.Proofs.NumberFormat.Literals
import PageMap.Proofs.NumberFormat.Output
import PageMap.Proofs.NumberFormat.Ranges
import PageMap.Proofs.NumberFormat.Sections
import PageMap.Proofs.NumberFormat.Zero
import PageMap.Proofs.Offset
import PageMap.Proofs.Omission
import PageMap.Proofs.Pages
import PageMap.Proofs.Pagination
import PageMap.Proofs.Records
import PageMap.Proofs.Resolution
import PageMap.Proofs.Splicing
import PageMap.Proofs.Text.Case
import PageMap.Proofs.Text.LineEnds
import PageMap.Proofs.Text.Trim
import PageMap.Proofs.Text.Words
import PageMap.Proofs.Typesetting.Filling
import PageMap.Proofs.Typesetting.Greedy
import PageMap.Proofs.Typesetting.Lines
import PageMap.Proofs.Typesetting.Stability
import PageMap.Proofs.Typing
import PageMap.Proofs.Visits
import PageMap.Proofs.Walk
import PageMap.Single
import PageMap.Style.Alignment
import PageMap.Style.Attribute
import PageMap.Style.Family
import PageMap.Style.Font
import PageMap.Style.Key
import PageMap.Style.Scale
import PageMap.Style.Value
import PageMap.Text.Blank
import PageMap.Text.Case
import PageMap.Text.CaseTable
import PageMap.Text.Content
import PageMap.Text.Hex
import PageMap.Typesetting.Composer
import PageMap.Typesetting.TextStyle
import PageMap.Typesetting.Wrap
import PageMap.Xml.Content
import PageMap.Xml.Document
import PageMap.Xml.Name
import PageMap.Xml.Scope
import PageMap.Xml.Tag
