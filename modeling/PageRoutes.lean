import PageRoutes.Choice
import PageRoutes.Command
import PageRoutes.Console
import PageRoutes.Console.Color
import PageRoutes.Console.Emoji
import PageRoutes.Console.Emoji.Names
import PageRoutes.Console.Markup
import PageRoutes.Console.Style
import PageRoutes.Console.Tags
import PageRoutes.Decimal.Double
import PageRoutes.Decimal.Shortest
import PageRoutes.Declaration
import PageRoutes.Discovery
import PageRoutes.Error
import PageRoutes.FileSystem
import PageRoutes.Glob
import PageRoutes.Json.Alike
import PageRoutes.Json.Basic
import PageRoutes.Json.Document
import PageRoutes.Json.Printer
import PageRoutes.Json.Reader
import PageRoutes.Main
import PageRoutes.Outcome
import PageRoutes.Path
import PageRoutes.Project
import PageRoutes.Proofs.Actions
import PageRoutes.Proofs.AppendedRoutes
import PageRoutes.Proofs.Below
import PageRoutes.Proofs.BuiltTrees
import PageRoutes.Proofs.CompiledTree
import PageRoutes.Proofs.Components
import PageRoutes.Proofs.DiscoveredFiles
import PageRoutes.Proofs.Draft
import PageRoutes.Proofs.DraftNodes
import PageRoutes.Proofs.DrawnTree
import PageRoutes.Proofs.Duplicates
import PageRoutes.Proofs.Effects
import PageRoutes.Proofs.EscapedText
import PageRoutes.Proofs.FilePaths
import PageRoutes.Proofs.FileUpdates
import PageRoutes.Proofs.FilledForms
import PageRoutes.Proofs.FirstOffence
import PageRoutes.Proofs.FlatMessages
import PageRoutes.Proofs.Frames
import PageRoutes.Proofs.GenerateCommand
import PageRoutes.Proofs.Generation
import PageRoutes.Proofs.GroupViews
import PageRoutes.Proofs.Grouping
import PageRoutes.Proofs.ImportSpecifier
import PageRoutes.Proofs.Insertion
import PageRoutes.Proofs.JsonDocument
import PageRoutes.Proofs.JsonOrder
import PageRoutes.Proofs.JsonReader
import PageRoutes.Proofs.LeftoverTokens
import PageRoutes.Proofs.Listing
import PageRoutes.Proofs.LongestExtension
import PageRoutes.Proofs.Lookup
import PageRoutes.Proofs.ModuleReader
import PageRoutes.Proofs.NestedPaths
import PageRoutes.Proofs.Numbering
import PageRoutes.Proofs.Occurrence
import PageRoutes.Proofs.PrintedLines
import PageRoutes.Proofs.PrunedTrees
import PageRoutes.Proofs.QuietActions
import PageRoutes.Proofs.Refusals
import PageRoutes.Proofs.Regeneration
import PageRoutes.Proofs.RelativeSpecifier
import PageRoutes.Proofs.ReportedPaths
import PageRoutes.Proofs.Reports
import PageRoutes.Proofs.RouteFailures
import PageRoutes.Proofs.RouteReferences
import PageRoutes.Proofs.SegmentTokens
import PageRoutes.Proofs.SessionFrames
import PageRoutes.Proofs.ShownText
import PageRoutes.Proofs.SiblingPaths
import PageRoutes.Proofs.StableExtensions
import PageRoutes.Proofs.Steps
import PageRoutes.Proofs.StoredText
import PageRoutes.Proofs.ToldText
import PageRoutes.Proofs.TreeDocument
import PageRoutes.Proofs.TreeOfFiles
import PageRoutes.Proofs.ViewFiles
import PageRoutes.Route.Basic
import PageRoutes.Route.Build
import PageRoutes.Route.Draft
import PageRoutes.Route.Export
import PageRoutes.Route.Extension
import PageRoutes.Route.Group
import PageRoutes.Route.Key
import PageRoutes.Route.Location
import PageRoutes.Route.Policy
import PageRoutes.Route.Reader
import PageRoutes.Route.Segment
import PageRoutes.RouterComponent
import PageRoutes.RoutesModule
import PageRoutes.RoutesModule.Reader
import PageRoutes.Script.Form
import PageRoutes.Script.Literal
import PageRoutes.Session
import PageRoutes.Settings
import PageRoutes.Text.Blank
import PageRoutes.Text.Columns
import PageRoutes.Text.Digit
import PageRoutes.Text.Encoding
import PageRoutes.Text.Hex
import PageRoutes.Text.Lower
import PageRoutes.Text.Printable
import PageRoutes.Text.Quoted
import PageRoutes.Text.Split
