import ServiceCli.Cli.Analyze
import ServiceCli.Cli.Arguments
import ServiceCli.Cli.Generate
import ServiceCli.Cli.Run
import ServiceCli.Cli.Session
import ServiceCli.Command.Assembly
import ServiceCli.Command.GenerationError
import ServiceCli.Command.Streaming
import ServiceCli.Command.Unit
import ServiceCli.Descriptor
import ServiceCli.Descriptor.Convert
import ServiceCli.Descriptor.Reading
import ServiceCli.Disk.Basic
import ServiceCli.Disk.Writing
import ServiceCli.Generation
import ServiceCli.GoFile
import ServiceCli.GoFile.Build
import ServiceCli.GoFile.Imports
import ServiceCli.GoText.File
import ServiceCli.GoText.Fill
import ServiceCli.GoText.GroupTemplate
import ServiceCli.GoText.Literal
import ServiceCli.GoText.Request
import ServiceCli.GoText.Subcommand
import ServiceCli.Json.Reading
import ServiceCli.Json.Token
import ServiceCli.Json.Value
import ServiceCli.Load.Error
import ServiceCli.Load.Loader
import ServiceCli.Load.SchemaFormat
import ServiceCli.Main
import ServiceCli.Name.Camel
import ServiceCli.Name.GoField
import ServiceCli.Name.Qualified
import ServiceCli.Options.Basic
import ServiceCli.Options.File
import ServiceCli.Options.Parameter
import ServiceCli.Outline
import ServiceCli.Outline.Describe
import ServiceCli.Outline.Json
import ServiceCli.Outline.Yaml
import ServiceCli.Outline.Yaml.Scalar
import ServiceCli.Path
import ServiceCli.Plugin.Request
import ServiceCli.Plugin.Response
import ServiceCli.Proofs.GoFile.RequestTypes
import ServiceCli.Proofs.GoFile.Subcommands
import ServiceCli.Proofs.Load.Given
import ServiceCli.Proofs.Load.Place
import ServiceCli.Proofs.Load.Reached
import ServiceCli.Proofs.Load.Steps
import ServiceCli.Proofs.Name.References
import ServiceCli.Proofs.Request.Allocated
import ServiceCli.Proofs.Request.Flags
import ServiceCli.Proofs.Request.Queries
import ServiceCli.Proofs.Request.Skeletons
import ServiceCli.Proofs.Result
import ServiceCli.Proofs.Text.Cuts
import ServiceCli.Proofs.Tree.Declared
import ServiceCli.Proofs.Tree.Remembered
import ServiceCli.Proto.Field
import ServiceCli.Proto.File
import ServiceCli.Proto.Message
import ServiceCli.Reading.Format
import ServiceCli.Reading.Model
import ServiceCli.Request.Allocation
import ServiceCli.Request.Flag
import ServiceCli.Request.FlagKind
import ServiceCli.Request.FlagWalk
import ServiceCli.Request.Skeleton
import ServiceCli.Schema
import ServiceCli.Text.Blank
import ServiceCli.Text.Decimal
import ServiceCli.Text.Hidden
import ServiceCli.Text.LetterCase
import ServiceCli.Text.LetterCase.Table
import ServiceCli.Text.Pieces
import ServiceCli.Text.Quoted
import ServiceCli.Text.Span
import ServiceCli.Tree.Lookup
import ServiceCli.Tree.LookupLog
import ServiceCli.Tree.Site
import ServiceCli.Wire.Part
import ServiceCli.Wire.Piece
import ServiceCli.Wire.Record
import ServiceCli.Wire.Varint
import ServiceCli.Wire.Writing
import ServiceCli.Yaml.Glyph
import ServiceCli.Yaml.Node
import ServiceCli.Yaml.Node.Compose
import ServiceCli.Yaml.Number
import ServiceCli.Yaml.Reading
import ServiceCli.Yaml.Scalar.Block
import ServiceCli.Yaml.Scalar.Fold
import ServiceCli.Yaml.Scalar.Plain
import ServiceCli.Yaml.Scalar.Quoted
import ServiceCli.Yaml.Token
import ServiceCli.Yaml.Token.Layout
import ServiceCli.Yaml.Token.Scan
import ServiceCli.Yaml.Token.Tag
import ServiceCli.Proofs.Tree.FullNames
import ServiceCli.Proofs.Load.Consistent
import ServiceCli.Proofs.Request.BindPaths
import ServiceCli.Proofs.Load.Room
import ServiceCli.Proofs.Load.Traced
import ServiceCli.Proofs.Load.Meaning
import ServiceCli.Proofs.Load.Collected
import ServiceCli.Proofs.Command.Assembled
import ServiceCli.Proofs.GoFile.Faults
import ServiceCli.Proofs.GoFile.Imports
import ServiceCli.Proofs.GoFile.Names
import ServiceCli.Proofs.GoText.Filled
import ServiceCli.Proofs.GoText.Qualifiers
import ServiceCli.Proofs.GoText.Mute
import ServiceCli.Proofs.GoFile.UsedImports
import ServiceCli.Proofs.GoText.Named
import ServiceCli.Proofs.GoFile.OutputNames
import ServiceCli.Proofs.GoFile.SubcommandFlags
import ServiceCli.Proofs.GoFile.Blocks
import ServiceCli.Proofs.Plugin.Response
import ServiceCli.Proofs.Cli.Agreement
import ServiceCli.Proofs.Tree.Preorder
import ServiceCli.Proofs.Request.FlagReading
import ServiceCli.Proofs.Request.MessageTree
import ServiceCli.Proofs.GoFile.NeededImports
import ServiceCli.Proofs.GoFile.OwnTypes
import ServiceCli.Proofs.Options.Parameter
import ServiceCli.Proofs.Options.Settings
import ServiceCli.Proofs.GoText.Scan
import ServiceCli.Proofs.Load.Order
import ServiceCli.Proofs.GoText.Literals
import ServiceCli.Proofs.GoText.Layout
import ServiceCli.Proofs.Load.Roots
import ServiceCli.Proofs.Tree.Extended
import ServiceCli.Proofs.Request.Extended
import ServiceCli.Proofs.Descriptor.Described
import ServiceCli.Proofs.GoText.ImportBlock
import ServiceCli.Proofs.Name.CamelCase
