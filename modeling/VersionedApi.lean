import VersionedApi.Calendar
import VersionedApi.CommandLine.Execution
import VersionedApi.CommandLine.Options
import VersionedApi.CommandLine.Request
import VersionedApi.Console
import VersionedApi.Description.Content
import VersionedApi.Description.Discovery
import VersionedApi.Description.Loading
import VersionedApi.Description.Response
import VersionedApi.Diagnostic
import VersionedApi.Digest.Sha256
import VersionedApi.Environment
import VersionedApi.Failure.Basic
import VersionedApi.Failure.Checked
import VersionedApi.Failure.Misuse
import VersionedApi.Failure.Problem
import VersionedApi.Files.Access
import VersionedApi.Files.Path
import VersionedApi.Files.Tree
import VersionedApi.Files.Writing
import VersionedApi.Generation
import VersionedApi.Identifier.Basic
import VersionedApi.Identifier.Label
import VersionedApi.Identifier.Scope
import VersionedApi.Inspection
import VersionedApi.Json.Canonical
import VersionedApi.Json.Quoted
import VersionedApi.Json.Reader
import VersionedApi.Main
import VersionedApi.Mark
import VersionedApi.Merge
import VersionedApi.Model.Api
import VersionedApi.Model.Definition
import VersionedApi.Model.Method
import VersionedApi.Model.Reading
import VersionedApi.Model.Rendered
import VersionedApi.Model.TypeRef
import VersionedApi.Model.Written
import VersionedApi.Number.Binary64
import VersionedApi.Number.Decimal
import VersionedApi.Number.Shortest
import VersionedApi.Pointer
import VersionedApi.Proofs.Cycles.Chains
import VersionedApi.Proofs.Cycles.References
import VersionedApi.Proofs.Cycles.Schemas
import VersionedApi.Proofs.Defaults.Coercion
import VersionedApi.Proofs.Defaults.Enumerations
import VersionedApi.Proofs.Defaults.Fields
import VersionedApi.Proofs.Defaults.Names
import VersionedApi.Proofs.Defaults.Spelling
import VersionedApi.Proofs.Definitions.Comparison
import VersionedApi.Proofs.Definitions.DefaultNames
import VersionedApi.Proofs.Definitions.Names
import VersionedApi.Proofs.Definitions.Schemas
import VersionedApi.Proofs.Definitions.Versions
import VersionedApi.Proofs.Descent
import VersionedApi.Proofs.Discovery.Directories
import VersionedApi.Proofs.Discovery.Names
import VersionedApi.Proofs.Documents
import VersionedApi.Proofs.Enumerations.Literals
import VersionedApi.Proofs.Enumerations.Schemas
import VersionedApi.Proofs.Files.Containment
import VersionedApi.Proofs.Identifier.Claims
import VersionedApi.Proofs.Identifier.Forms
import VersionedApi.Proofs.Identifier.Letters
import VersionedApi.Proofs.Identifier.OperationIds
import VersionedApi.Proofs.Inspection.Cells
import VersionedApi.Proofs.Inspection.Commands
import VersionedApi.Proofs.Inspection.Tables
import VersionedApi.Proofs.Json.Canonical
import VersionedApi.Proofs.Json.Injectivity
import VersionedApi.Proofs.Json.Quoted
import VersionedApi.Proofs.Loading.Literals
import VersionedApi.Proofs.Loading.Models
import VersionedApi.Proofs.Loading.Objects
import VersionedApi.Proofs.Loading.Schemas
import VersionedApi.Proofs.Loading.Versions
import VersionedApi.Proofs.Merge.Addresses
import VersionedApi.Proofs.Merge.Agreement
import VersionedApi.Proofs.Merge.Bindings
import VersionedApi.Proofs.Merge.Inheritance
import VersionedApi.Proofs.Merge.Integrity
import VersionedApi.Proofs.Merge.Runs
import VersionedApi.Proofs.Merge.Statics
import VersionedApi.Proofs.Merge.Steps
import VersionedApi.Proofs.Modeling.Composition
import VersionedApi.Proofs.Modeling.Outcomes
import VersionedApi.Proofs.Modeling.Readings
import VersionedApi.Proofs.Modeling.Walks
import VersionedApi.Proofs.Number.Doubles
import VersionedApi.Proofs.Number.Rendering
import VersionedApi.Proofs.Number.Shortest
import VersionedApi.Proofs.Order.Documents
import VersionedApi.Proofs.Order.Readings
import VersionedApi.Proofs.Order.References
import VersionedApi.Proofs.Order.Runs
import VersionedApi.Proofs.Order.Schemas
import VersionedApi.Proofs.Order.Steps
import VersionedApi.Proofs.Places.Lookups
import VersionedApi.Proofs.Places.Numerals
import VersionedApi.Proofs.Places.Reports
import VersionedApi.Proofs.Places.Schemas
import VersionedApi.Proofs.Places.Versions
import VersionedApi.Proofs.Recording.Nullability
import VersionedApi.Proofs.Recording.Positions
import VersionedApi.Proofs.Recording.Schemas
import VersionedApi.Proofs.Recording.Steps
import VersionedApi.Proofs.References.Grounded
import VersionedApi.Proofs.References.Schemas
import VersionedApi.Proofs.References.Versions
import VersionedApi.Proofs.Registering
import VersionedApi.Proofs.Registry.Arrangements
import VersionedApi.Proofs.Route.Shapes
import VersionedApi.Proofs.Settings.Precedence
import VersionedApi.Proofs.Sources.Readings
import VersionedApi.Proofs.Sources.Schemas
import VersionedApi.Proofs.Sources.Versions
import VersionedApi.Proofs.Stages
import VersionedApi.Proofs.Statics.Redirects
import VersionedApi.Proofs.Statics.Url
import VersionedApi.Proofs.Unions.Mappings
import VersionedApi.Proofs.Unions.Members
import VersionedApi.Proofs.Unions.Tags
import VersionedApi.Proofs.Value.Comparison
import VersionedApi.Proofs.Value.Equivalence
import VersionedApi.Proofs.Value.Json
import VersionedApi.Proofs.Value.Parts
import VersionedApi.Proofs.Version.Conflicts
import VersionedApi.Proofs.Version.Declared
import VersionedApi.Proofs.Version.Labels
import VersionedApi.Proofs.Version.Operations
import VersionedApi.Proofs.Version.Parameters
import VersionedApi.Proofs.Version.Responses
import VersionedApi.Proofs.Version.Routes
import VersionedApi.Proofs.Visits
import VersionedApi.Proofs.Yaml.Parts
import VersionedApi.Proofs.Yaml.Unfolding
import VersionedApi.Reference
import VersionedApi.Registry
import VersionedApi.Route.Shape
import VersionedApi.Schema.Default
import VersionedApi.Schema.Modeling
import VersionedApi.Schema.Step
import VersionedApi.Settings
import VersionedApi.Stage
import VersionedApi.StaticRoutes
import VersionedApi.Text.CharacterName
import VersionedApi.Text.CharacterName.Basic
import VersionedApi.Text.CharacterName.Letters
import VersionedApi.Text.CharacterName.Signs
import VersionedApi.Text.Charset
import VersionedApi.Text.Charset.Chinese
import VersionedApi.Text.Charset.Escaped
import VersionedApi.Text.Charset.Japanese
import VersionedApi.Text.Charset.Korean
import VersionedApi.Text.Charset.Punycode
import VersionedApi.Text.Charset.Reading
import VersionedApi.Text.Charset.Switched
import VersionedApi.Text.Charset.Unicode
import VersionedApi.Text.Classes
import VersionedApi.Text.Encoding
import VersionedApi.Text.Grid.Basic
import VersionedApi.Text.Grid.Japanese
import VersionedApi.Text.Grid.Korean
import VersionedApi.Text.Grid.Simplified
import VersionedApi.Text.Grid.Traditional
import VersionedApi.Text.Half
import VersionedApi.Text.Integer
import VersionedApi.Text.LowerCase
import VersionedApi.Text.OctetTable.Basic
import VersionedApi.Text.OctetTable.Known
import VersionedApi.Text.OctetTable.Pages
import VersionedApi.Text.Printable
import VersionedApi.Text.Quoted
import VersionedApi.Text.Utf8
import VersionedApi.Value.Basic
import VersionedApi.Value.Equality
import VersionedApi.Value.Items
import VersionedApi.Value.Order
import VersionedApi.Value.Portable
import VersionedApi.Value.Slots
import VersionedApi.Value.Text
import VersionedApi.Version.Build
import VersionedApi.Version.Media
import VersionedApi.Version.Parameters
import VersionedApi.Version.Responses
import VersionedApi.Version.Status
import VersionedApi.Yaml.Cursor
import VersionedApi.Yaml.Lexeme
import VersionedApi.Yaml.Lexer
import VersionedApi.Yaml.Node
import VersionedApi.Yaml.Page
import VersionedApi.Yaml.Part
import VersionedApi.Yaml.Plain
import VersionedApi.Yaml.Printer
import VersionedApi.Yaml.Scalar
import VersionedApi.Yaml.Style
import VersionedApi.Yaml.Token
import VersionedApi.Yaml.Unfolding
