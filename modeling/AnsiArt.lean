import AnsiArt.Artwork
import AnsiArt.Calendar
import AnsiArt.CommandLine.AuditTool
import AnsiArt.CommandLine.Line
import AnsiArt.CommandLine.Option
import AnsiArt.CommandLine.Outcome
import AnsiArt.CommandLine.RenderTool
import AnsiArt.CommandLine.Word
import AnsiArt.Control.Attempt
import AnsiArt.Control.Command
import AnsiArt.Control.Decoder
import AnsiArt.Control.Function
import AnsiArt.Control.Parameters
import AnsiArt.Control.RenditionChange
import AnsiArt.Decimal.Binary64
import AnsiArt.Decimal.Fixed
import AnsiArt.Decimal.Shortest
import AnsiArt.Files.Path
import AnsiArt.Files.Tree
import AnsiArt.Fonts.Audit
import AnsiArt.Fonts.Font
import AnsiArt.Fonts.Stack
import AnsiArt.Fonts.Table
import AnsiArt.Index
import AnsiArt.Main
import AnsiArt.Notice
import AnsiArt.Output.Config
import AnsiArt.Output.Export
import AnsiArt.Palette.Basic
import AnsiArt.Palette.Bundled
import AnsiArt.Palette.Colour
import AnsiArt.Palette.Overlay
import AnsiArt.Palette.Shelf
import AnsiArt.Proofs.CommandLine.Deliveries
import AnsiArt.Proofs.CommandLine.Printing
import AnsiArt.Proofs.Control.Atomicity
import AnsiArt.Proofs.Control.Collecting
import AnsiArt.Proofs.Control.Decimals
import AnsiArt.Proofs.Control.Handling
import AnsiArt.Proofs.Control.Integers
import AnsiArt.Proofs.Control.Numbers
import AnsiArt.Proofs.Control.Operations
import AnsiArt.Proofs.Control.Overlong
import AnsiArt.Proofs.Control.Quiet
import AnsiArt.Proofs.Control.Selection
import AnsiArt.Proofs.Files.Directories
import AnsiArt.Proofs.Files.Places
import AnsiArt.Proofs.Fonts.Coverage
import AnsiArt.Proofs.Fonts.Discovery
import AnsiArt.Proofs.Fonts.Resolution
import AnsiArt.Proofs.Output.Renderings
import AnsiArt.Proofs.Palette.Definitions
import AnsiArt.Proofs.Palette.Listing
import AnsiArt.Proofs.Palette.Loading
import AnsiArt.Proofs.Palette.Reading
import AnsiArt.Proofs.Palette.Spelling
import AnsiArt.Proofs.Render.Cells
import AnsiArt.Proofs.Render.Colours
import AnsiArt.Proofs.Render.Documents
import AnsiArt.Proofs.Render.Glyphs
import AnsiArt.Proofs.Render.Insertion
import AnsiArt.Proofs.Render.Lines
import AnsiArt.Proofs.Render.Markup
import AnsiArt.Proofs.Render.Rules
import AnsiArt.Proofs.Render.Spans
import AnsiArt.Proofs.Sauce.Contents
import AnsiArt.Proofs.Sauce.Loading
import AnsiArt.Proofs.Sauce.Stripping
import AnsiArt.Proofs.Sauce.Trailer
import AnsiArt.Proofs.Screen.Bounds
import AnsiArt.Proofs.Screen.Characters
import AnsiArt.Proofs.Screen.Drawing
import AnsiArt.Proofs.Screen.Erasing
import AnsiArt.Proofs.Screen.Extension
import AnsiArt.Proofs.Screen.Heights
import AnsiArt.Proofs.Screen.Insertion
import AnsiArt.Proofs.Screen.Pages
import AnsiArt.Proofs.Screen.Positions
import AnsiArt.Proofs.Screen.Renditions
import AnsiArt.Proofs.Screen.Wrapping
import AnsiArt.Proofs.Stream.Atomicity
import AnsiArt.Proofs.Stream.Bounds
import AnsiArt.Proofs.Stream.Chunks
import AnsiArt.Proofs.Stream.Drawing
import AnsiArt.Proofs.Stream.Erasing
import AnsiArt.Proofs.Stream.Extent
import AnsiArt.Proofs.Stream.Forgetting
import AnsiArt.Proofs.Stream.Heights
import AnsiArt.Proofs.Stream.Insertion
import AnsiArt.Proofs.Stream.Joining
import AnsiArt.Proofs.Stream.Meaning
import AnsiArt.Proofs.Stream.Pages
import AnsiArt.Proofs.Stream.Reachable
import AnsiArt.Proofs.Stream.Renditions
import AnsiArt.Proofs.Stream.Script
import AnsiArt.Proofs.Stream.Strokes
import AnsiArt.Proofs.Stream.Tabs
import AnsiArt.Proofs.Stream.Totality
import AnsiArt.Proofs.Stream.Wrapping
import AnsiArt.Proofs.Text.Hexadecimals
import AnsiArt.Proofs.Text.Trimming
import AnsiArt.Proofs.Text.Utf8
import AnsiArt.Render.Grid
import AnsiArt.Render.Html
import AnsiArt.Render.Image
import AnsiArt.Render.Look
import AnsiArt.Render.PlainText
import AnsiArt.Sauce.Reader
import AnsiArt.Sauce.Record
import AnsiArt.Screen.Canvas
import AnsiArt.Screen.Cell
import AnsiArt.Screen.Cursor
import AnsiArt.Screen.Room
import AnsiArt.Setting
import AnsiArt.Terminal
import AnsiArt.Text.CharClass
import AnsiArt.Text.CodePage437
import AnsiArt.Text.CodePoint
import AnsiArt.Text.DecimalDigit
import AnsiArt.Text.Hex
import AnsiArt.Text.Integer
import AnsiArt.Text.LetterCase
import AnsiArt.Text.Numeral
import AnsiArt.Text.Quoted
import AnsiArt.Text.Split
import AnsiArt.Text.Tables.LetterCase
import AnsiArt.Text.Tables.Printable
import AnsiArt.Text.Utf8
import AnsiArt.Value
import AnsiArt.Yaml.Draft
import AnsiArt.Yaml.Node
import AnsiArt.Yaml.Scalar
import AnsiArt.Yaml.Source
import AnsiArt.Yaml.Timestamp
import AnsiArt.Yaml.Token
