import MailTemplate.Assembly
import MailTemplate.Command.Arguments
import MailTemplate.Command.Parse
import MailTemplate.Command.Perform
import MailTemplate.Command.Run
import MailTemplate.Component.Directory
import MailTemplate.Component.Name
import MailTemplate.Configuration
import MailTemplate.Data.Resolver
import MailTemplate.Data.Sample
import MailTemplate.Data.Supply
import MailTemplate.Data.Value
import MailTemplate.Directive.Extent
import MailTemplate.Directive.Tag
import MailTemplate.Engine.Basic
import MailTemplate.Engine.Conversion
import MailTemplate.Engine.Definition
import MailTemplate.Engine.Registry
import MailTemplate.Fault
import MailTemplate.Files.Access
import MailTemplate.Files.Path
import MailTemplate.Files.Tree
import MailTemplate.Files.Walk
import MailTemplate.Loop.Expansion
import MailTemplate.Loop.Span
import MailTemplate.Main
import MailTemplate.Preview
import MailTemplate.Printing
import MailTemplate.Proofs.Catalog
import MailTemplate.Proofs.Inertness
import MailTemplate.Proofs.KeyedExtent
import MailTemplate.Proofs.Limits
import MailTemplate.Proofs.LoopLines
import MailTemplate.Proofs.Nesting
import MailTemplate.Proofs.Outline
import MailTemplate.Proofs.Preparation
import MailTemplate.Proofs.Segmentation
import MailTemplate.Proofs.Splicing
import MailTemplate.Proofs.Trace
import MailTemplate.Reference
import MailTemplate.Report.Issues
import MailTemplate.Report.Json
import MailTemplate.Report.Listing
import MailTemplate.Report.Paint
import MailTemplate.Report.Terminal
import MailTemplate.Style.AtRule
import MailTemplate.Style.Hoist
import MailTemplate.Style.OpenTag
import MailTemplate.Style.Sheet
import MailTemplate.Table
import MailTemplate.Text.Basic
import MailTemplate.Text.Blank
import MailTemplate.Text.DecimalDigit
import MailTemplate.Text.LetterCase
import MailTemplate.Text.Numeral
import MailTemplate.Text.Pattern
import MailTemplate.Text.Shape
import MailTemplate.Text.Unprintable
import MailTemplate.Text.WordCharacter
import MailTemplate.Toml.Datum
import MailTemplate.Toml.Decode
import MailTemplate.Toml.Document
import MailTemplate.Toml.Quoted
import MailTemplate.Toml.Scalar
import MailTemplate.Toml.Value
import MailTemplate.Validation.Check
import MailTemplate.Validation.Finding
import MailTemplate.Validation.Reading
import MailTemplate.Proofs.Frame
import MailTemplate.Proofs.FailOpen
import MailTemplate.Proofs.Headroom
import MailTemplate.Proofs.Undefined
import MailTemplate.Proofs.FileTree
import MailTemplate.Proofs.Loading
import MailTemplate.Proofs.Inventory
import MailTemplate.Proofs.SheetOutline
import MailTemplate.Proofs.Stacked
import MailTemplate.Proofs.BlockFree
import MailTemplate.Proofs.Placement
import MailTemplate.Proofs.Declarations
import MailTemplate.Proofs.QuotedTag
import MailTemplate.Proofs.FanOut
import MailTemplate.Proofs.Pairing
import MailTemplate.Proofs.PrintPass
import MailTemplate.Proofs.Position
import MailTemplate.Proofs.LineEnding
import MailTemplate.Proofs.Confinement
import MailTemplate.Proofs.ReferenceMail
import MailTemplate.Proofs.Placeholder
import MailTemplate.Proofs.Layers
import MailTemplate.Proofs.Registration
import MailTemplate.Proofs.Writing
import MailTemplate.Proofs.Delivery
