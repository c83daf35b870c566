import DashboardGenerator.Config.Assign
import DashboardGenerator.Config.Format
import DashboardGenerator.Config.Host
import DashboardGenerator.Config.OfToml
import DashboardGenerator.Config.Order
import DashboardGenerator.Config.Path
import DashboardGenerator.Config.PathText
import DashboardGenerator.Config.Read
import DashboardGenerator.Config.Value
import DashboardGenerator.Dashboard.Basic
import DashboardGenerator.Dashboard.ByteScan
import DashboardGenerator.Dashboard.Definition
import DashboardGenerator.Dashboard.Edit
import DashboardGenerator.Dashboard.Numbering
import DashboardGenerator.Dashboard.Placeholder
import DashboardGenerator.Dashboard.Repair
import DashboardGenerator.Dashboard.Services
import DashboardGenerator.Dashboard.Validation
import DashboardGenerator.Environment
import DashboardGenerator.Files
import DashboardGenerator.Generator.Definition
import DashboardGenerator.Generator.DefinitionPaths
import DashboardGenerator.Generator.DefinitionText
import DashboardGenerator.Generator.Log
import DashboardGenerator.Generator.Machine
import DashboardGenerator.Generator.Platform
import DashboardGenerator.Generator.Run
import DashboardGenerator.Generator.Settings
import DashboardGenerator.Grafana.Document
import DashboardGenerator.Grafana.Page
import DashboardGenerator.Grafana.Reading
import DashboardGenerator.Grafana.ReferenceId
import DashboardGenerator.Json.Basic
import DashboardGenerator.Json.Printer
import DashboardGenerator.Json.Reader
import DashboardGenerator.Json.Region
import DashboardGenerator.Json.Token
import DashboardGenerator.Main
import DashboardGenerator.Number.Binary64
import DashboardGenerator.Number.Digits
import DashboardGenerator.Number.Numeral
import DashboardGenerator.Number.Shortest
import DashboardGenerator.Proofs.Config.Damage
import DashboardGenerator.Proofs.Config.Fields
import DashboardGenerator.Proofs.Config.Host
import DashboardGenerator.Proofs.Config.Kinds
import DashboardGenerator.Proofs.Config.Layers
import DashboardGenerator.Proofs.Config.Leaves
import DashboardGenerator.Proofs.Config.Numbers
import DashboardGenerator.Proofs.Config.Order
import DashboardGenerator.Proofs.Config.PathText
import DashboardGenerator.Proofs.Config.Positional
import DashboardGenerator.Proofs.Config.Scalars
import DashboardGenerator.Proofs.Config.StandsFor
import DashboardGenerator.Proofs.Config.Written
import DashboardGenerator.Proofs.Dashboard.ByteScan
import DashboardGenerator.Proofs.Dashboard.ByteToken
import DashboardGenerator.Proofs.Dashboard.Definition
import DashboardGenerator.Proofs.Dashboard.Dependence
import DashboardGenerator.Proofs.Dashboard.FirstAppearance
import DashboardGenerator.Proofs.Dashboard.FirstFault
import DashboardGenerator.Proofs.Dashboard.Grammar
import DashboardGenerator.Proofs.Dashboard.Numbering
import DashboardGenerator.Proofs.Dashboard.Pieces
import DashboardGenerator.Proofs.Dashboard.Renumbering
import DashboardGenerator.Proofs.Dashboard.Repair
import DashboardGenerator.Proofs.Dashboard.Separation
import DashboardGenerator.Proofs.Dashboard.Validation
import DashboardGenerator.Proofs.Files
import DashboardGenerator.Proofs.Generator.Composition
import DashboardGenerator.Proofs.Generator.DefinitionRoundTrip
import DashboardGenerator.Proofs.Generator.DefinitionSchema
import DashboardGenerator.Proofs.Generator.Emission
import DashboardGenerator.Proofs.Generator.ExternalIdentifier
import DashboardGenerator.Proofs.Generator.Failure
import DashboardGenerator.Proofs.Generator.FaultPlaces
import DashboardGenerator.Proofs.Generator.IntegerFields
import DashboardGenerator.Proofs.Generator.Logging
import DashboardGenerator.Proofs.Generator.PathKeys
import DashboardGenerator.Proofs.Generator.PositionalRecords
import DashboardGenerator.Proofs.Generator.Precedence
import DashboardGenerator.Proofs.Generator.Stages
import DashboardGenerator.Proofs.Generator.TitleLine
import DashboardGenerator.Proofs.Grafana.Layout
import DashboardGenerator.Proofs.Grafana.ReferenceId
import DashboardGenerator.Proofs.Grafana.ReferenceOrder
import DashboardGenerator.Proofs.Grafana.RoundTrip
import DashboardGenerator.Proofs.Json.Layout
import DashboardGenerator.Proofs.Json.Lexing
import DashboardGenerator.Proofs.Json.RoundTrip
import DashboardGenerator.Proofs.Result
import DashboardGenerator.Proofs.Text.Lowercase
import DashboardGenerator.Proofs.Text.Slice
import DashboardGenerator.Proofs.Text.Utf8
import DashboardGenerator.Proofs.Toml.Encoding
import DashboardGenerator.Proofs.Toml.Faulty
import DashboardGenerator.Proofs.Toml.Integer
import DashboardGenerator.Proofs.Toml.Legible
import DashboardGenerator.Proofs.Toml.Lexing
import DashboardGenerator.Proofs.Toml.Literal
import DashboardGenerator.Proofs.Toml.Place
import DashboardGenerator.Proofs.Toml.QuotedLines
import DashboardGenerator.Proofs.Toml.Replaced
import DashboardGenerator.Proofs.Toml.Section
import DashboardGenerator.Proofs.Toml.Simulation
import DashboardGenerator.Proofs.Toml.StandsFor
import DashboardGenerator.Text.Blank
import DashboardGenerator.Text.Cased
import DashboardGenerator.Text.CodePoints
import DashboardGenerator.Text.LowerMap
import DashboardGenerator.Text.Lowercase
import DashboardGenerator.Text.OsText
import DashboardGenerator.Text.Quoted
import DashboardGenerator.Text.Slice
import DashboardGenerator.Text.Unprintable
import DashboardGenerator.Text.Utf8
import DashboardGenerator.Toml.DateTime
import DashboardGenerator.Toml.Document
import DashboardGenerator.Toml.Quoted
import DashboardGenerator.Toml.Scalar
import DashboardGenerator.Toml.Table
import DashboardGenerator.Toml.Token
import DashboardGenerator.Toml.Writer
