import RouteScript.CommandLine.Manual
import RouteScript.CommandLine.Request
import RouteScript.CommandLine.Session
import RouteScript.CommandLine.Switch
import RouteScript.Files.Account
import RouteScript.Files.Disk
import RouteScript.Files.Path
import RouteScript.Java.CompilationUnit
import RouteScript.Java.Declaration
import RouteScript.Java.Expression
import RouteScript.Java.Literal
import RouteScript.Java.Parser
import RouteScript.Java.Statement
import RouteScript.Java.Token
import RouteScript.Java.Tree
import RouteScript.Java.Type
import RouteScript.Log
import RouteScript.Main
import RouteScript.Number.Binary64
import RouteScript.Number.Numeral
import RouteScript.Number.Shortest
import RouteScript.Output.Writer
import RouteScript.Pattern.FilePattern
import RouteScript.Pattern.Glob
import RouteScript.Pattern.Regex
import RouteScript.Pattern.RegexReader
import RouteScript.Project.Generation
import RouteScript.Project.LogFile
import RouteScript.Project.Scan
import RouteScript.Project.SettingValue
import RouteScript.Project.Settings
import RouteScript.Proofs.CommandLine.Reporting
import RouteScript.Proofs.Fallible
import RouteScript.Proofs.Files.DiskChange
import RouteScript.Proofs.Files.DiskTree
import RouteScript.Proofs.Files.MissingFiles
import RouteScript.Proofs.Files.PathFaults
import RouteScript.Proofs.Files.WalkOrder
import RouteScript.Proofs.Files.WriteAccess
import RouteScript.Proofs.Java.Comments
import RouteScript.Proofs.Java.ConstantExpression
import RouteScript.Proofs.Java.ConstantReading
import RouteScript.Proofs.Java.ConstantText
import RouteScript.Proofs.Java.EscapeSequence
import RouteScript.Proofs.Java.IntegerLiteral
import RouteScript.Proofs.Java.LiteralItems
import RouteScript.Proofs.Java.LiteralText
import RouteScript.Proofs.Java.Nesting
import RouteScript.Proofs.Java.OperatorText
import RouteScript.Proofs.Java.ParserRuns
import RouteScript.Proofs.Java.SpelledLines
import RouteScript.Proofs.Java.TextBlock
import RouteScript.Proofs.Java.TreeWalk
import RouteScript.Proofs.Output.ChangeDetection
import RouteScript.Proofs.Output.ChangeLog
import RouteScript.Proofs.Output.DryWriting
import RouteScript.Proofs.Output.ManifestLines
import RouteScript.Proofs.Output.WriteFaults
import RouteScript.Proofs.Output.Writing
import RouteScript.Proofs.Output.WritingAfresh
import RouteScript.Proofs.Project.AllOrNothing
import RouteScript.Proofs.Project.ConfigurationLines
import RouteScript.Proofs.Project.ConfigurationRoundTrip
import RouteScript.Proofs.Project.DryRun
import RouteScript.Proofs.Project.FatalSites
import RouteScript.Proofs.Project.FilledScripts
import RouteScript.Proofs.Project.Idempotence
import RouteScript.Proofs.Project.Isolation
import RouteScript.Proofs.Project.ManifestHistory
import RouteScript.Proofs.Project.RootOrder
import RouteScript.Proofs.Project.RunEffect
import RouteScript.Proofs.Project.RunFaults
import RouteScript.Proofs.Project.RunOutput
import RouteScript.Proofs.Project.ScanRemoval
import RouteScript.Proofs.Project.ScanSelection
import RouteScript.Proofs.Project.ScanStability
import RouteScript.Proofs.Project.SettingsFaults
import RouteScript.Proofs.Route.ClassSites
import RouteScript.Proofs.Route.DocumentSites
import RouteScript.Proofs.Route.SourceOrder
import RouteScript.Proofs.Script.Boundary
import RouteScript.Proofs.Script.Braces
import RouteScript.Proofs.Script.CallCode
import RouteScript.Proofs.Script.CallTable
import RouteScript.Proofs.Script.CodeCharacters
import RouteScript.Proofs.Script.CodeExpressions
import RouteScript.Proofs.Script.CodeLines
import RouteScript.Proofs.Script.CodeStructure
import RouteScript.Proofs.Script.EmptyScript
import RouteScript.Proofs.Script.FaultPlace
import RouteScript.Proofs.Script.Grammar
import RouteScript.Proofs.Script.Grouping
import RouteScript.Proofs.Script.IntegerValue
import RouteScript.Proofs.Script.Layout
import RouteScript.Proofs.Script.Lexeme
import RouteScript.Proofs.Script.LookupSpelling
import RouteScript.Proofs.Script.Numeral
import RouteScript.Proofs.Script.QuotedLiteral
import RouteScript.Proofs.Script.QuotedValues
import RouteScript.Proofs.Script.Respacing
import RouteScript.Proofs.Script.TemplateMeaning
import RouteScript.Proofs.Script.TemplateRendering
import RouteScript.Proofs.Script.Tiling
import RouteScript.Proofs.Script.TokenSpans
import RouteScript.Proofs.Text.Encoding
import RouteScript.Proofs.Text.Lines
import RouteScript.Proofs.Text.Margin
import RouteScript.Proofs.Text.Order
import RouteScript.Proofs.Text.Parts
import RouteScript.Proofs.Text.Surrogate
import RouteScript.Proofs.Unit.AliasExpansion
import RouteScript.Proofs.Unit.ClassDeclaration
import RouteScript.Proofs.Unit.Compilation
import RouteScript.Proofs.Unit.EmbeddedScript
import RouteScript.Proofs.Unit.Naming
import RouteScript.Proofs.Unit.OwnerNumbering
import RouteScript.Proofs.Unit.SourceCharacters
import RouteScript.Route.Extraction
import RouteScript.Route.Site
import RouteScript.Script.Call
import RouteScript.Script.Fault
import RouteScript.Script.Operator
import RouteScript.Script.Predicate
import RouteScript.Script.Segment
import RouteScript.Script.Template
import RouteScript.Script.Token
import RouteScript.Text.CodePoint
import RouteScript.Text.Identifier
import RouteScript.Text.LetterCase
import RouteScript.Text.Lines
import RouteScript.Text.Printable
import RouteScript.Text.Utf8
import RouteScript.Text.WordCharacter
import RouteScript.Unit.Alias
import RouteScript.Unit.Configuration
import RouteScript.Unit.Source
import RouteScript.Xml.Doctype
import RouteScript.Xml.Document
import RouteScript.Xml.Element
import RouteScript.Xml.Fault
import RouteScript.Xml.Lexeme
import RouteScript.Xml.NameCharacter
import RouteScript.Xml.Prolog
import RouteScript.Xml.Source
import RouteScript.Xml.Tree
import RouteScript.Yaml.BlockScalar
import RouteScript.Yaml.Cursor
import RouteScript.Yaml.Fault
import RouteScript.Yaml.Marker
import RouteScript.Yaml.Moment
import RouteScript.Yaml.Node
import RouteScript.Yaml.PlainScalar
import RouteScript.Yaml.QuotedScalar
import RouteScript.Yaml.Tag
import RouteScript.Yaml.Token
import RouteScript.Yaml.Value
