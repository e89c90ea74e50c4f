import Chronogram.Main
import Chronogram.Statement.Printer
import Chronogram.Proofs.Statement.Pattern
import Chronogram.Proofs.Statement.Splitting
import Chronogram.Proofs.Statement.Piece
import Chronogram.Proofs.Statement.ArrowPiece
import Chronogram.Proofs.Statement.Reading
import Chronogram.Proofs.Statement.Unambiguous
import Chronogram.Proofs.Table
import Chronogram.Proofs.Timeline.ForwardFill
import Chronogram.Diagram.Builder
import Chronogram.Proofs.Diagram.Effect
import Chronogram.Proofs.Diagram.InPlace
import Chronogram.Proofs.Diagram.Atomicity
import Chronogram.Proofs.Markup.Safe
import Chronogram.Proofs.Diagram.WellBuilt
import Chronogram.Proofs.Diagram.Building
import Chronogram.Proofs.Layout.Attachment
import Chronogram.Proofs.Layout.Acceptance
import Chronogram.Proofs.Svg.Lexeme
import Chronogram.Proofs.Markup.Escape
import Chronogram.Proofs.Statement.Writing
import Chronogram.Proofs.Text.Numeral
import Chronogram.Proofs.Source.Solid
import Chronogram.Proofs.Source.Unchanged
import Chronogram.Proofs.Diagram.Catalog
import Chronogram.Proofs.Diagram.Printing
import Chronogram.Proofs.Diagram.RoundTrip
import Chronogram.Proofs.Svg.Characters
import Chronogram.Proofs.Svg.Writing
import Chronogram.Proofs.Svg.Nesting
import Chronogram.Proofs.Svg.Sound
import Chronogram.Proofs.Svg.Shapes
import Chronogram.Proofs.Diagram.Skeleton
import Chronogram.Proofs.Svg.Injection
import Chronogram.Proofs.Checked.Reading
import Chronogram.Proofs.Checked.Building
import Chronogram.Proofs.Checked.Layout
import Chronogram.Proofs.Checked.Compiling
import Chronogram.Proofs.Diagram.Strictness
import Chronogram.Proofs.Diagram.Renumbering
import Chronogram.Proofs.Diagram.Edit
import Chronogram.Proofs.Source.RawLines
import Chronogram.Proofs.Diagram.Exchange
import Chronogram.Proofs.Grouping
import Chronogram.Proofs.Source.Rearranging
import Chronogram.Proofs.Source.Silence
import Chronogram.Proofs.Source.DefinitionOrder
import Chronogram.Proofs.Text.Lines
import Chronogram.Proofs.Source.Blame
import Chronogram.Proofs.Timeline.Repetition
import Chronogram.Proofs.Outcome
import Chronogram.Proofs.Layout.Dependence
import Chronogram.Proofs.Layout.Significance
import Chronogram.Proofs.Layout.Slices
import Chronogram.Proofs.Layout.Change
import Chronogram.Proofs.Layout.Staircase
import Chronogram.Proofs.Layout.Restyling
import Chronogram.Proofs.Exact
import Chronogram.Proofs.Layout.Bus
import Chronogram.Proofs.Svg.Scale
import Chronogram.Proofs.Source.Comment
import Chronogram.Proofs.Source.OneLine
import Chronogram.Proofs.Diagram.Wording
import Chronogram.Proofs.Diagram.InLine
import Chronogram.Proofs.Layout.Wording
import Chronogram.Proofs.CommandLine.Arguments
import Chronogram.Proofs.Json
import Chronogram.Proofs.Report
import Chronogram.Proofs.CommandLine.Delivery
import Chronogram.Proofs.Layout.Legend
import Chronogram.Proofs.Layout.Stack
import Chronogram.Proofs.Layout.Enclosure
import Chronogram.Proofs.Layout.Labels
import Chronogram.Proofs.Diagram.Observation
import Chronogram.Proofs.Text.Trim
import Chronogram.Proofs.Occurrence
import Chronogram.Proofs.Source.Expansion
import Chronogram.Proofs.Source.Visible
import Chronogram.Proofs.Source.NormalForm
import Chronogram.Proofs.Diagram.Assignment
import Chronogram.Proofs.Markup.NamedReference
import Chronogram.Proofs.Markup.Decoding
import Chronogram.Proofs.Diagram.Naming
import Chronogram.Proofs.Markup.Display
import Chronogram.Proofs.Svg.Identifier
import Chronogram.Proofs.Svg.Elements
import Chronogram.Proofs.Svg.Marks
import Chronogram.Proofs.Svg.Completeness
import Chronogram.Proofs.Svg.Inlining
import Chronogram.Proofs.Number.Rounding
import Chronogram.Proofs.Number.Double
import Chronogram.Proofs.Number.Reading
import Chronogram.Proofs.Number.Interval
import Chronogram.Proofs.Number.Shortest
import Chronogram.Proofs.Number.Plain
import Chronogram.Proofs.Svg.Number
import Chronogram.Proofs.Diagram.Directive
import Chronogram.Proofs.Layout.Reversal
import Chronogram.Proofs.Text.LetterCase
import Chronogram.Proofs.Raster.Color
import Chronogram.Proofs.Checked.Color
import Chronogram.Proofs.CommandLine.Groups
import Chronogram.Proofs.CommandLine.Paths
import Chronogram.Proofs.CommandLine.Beside
