import Scaffold.Artifact
import Scaffold.Backend.Access
import Scaffold.Backend.Config
import Scaffold.Backend.Controller
import Scaffold.Backend.Entity
import Scaffold.Backend.Literal
import Scaffold.Backend.Service
import Scaffold.Batch.Budget
import Scaffold.Batch.Plan
import Scaffold.Client.Component
import Scaffold.Client.Interface
import Scaffold.Client.Markup
import Scaffold.Client.MatTable
import Scaffold.Client.Reference
import Scaffold.Client.Service
import Scaffold.Client.Source
import Scaffold.CommandLine.Arguments
import Scaffold.CommandLine.Execution
import Scaffold.CommandLine.Report
import Scaffold.Ddl.Create
import Scaffold.Ddl.DataType
import Scaffold.Ddl.Expression
import Scaffold.Ddl.Name
import Scaffold.Ddl.Query
import Scaffold.Ddl.Script
import Scaffold.Ddl.Statement
import Scaffold.Ddl.TableDefinition
import Scaffold.Ddl.Token
import Scaffold.Decimal.Double
import Scaffold.Decimal.FloatValue
import Scaffold.Decimal.Numeral
import Scaffold.Decimal.Shortest
import Scaffold.Error
import Scaffold.Files.Store
import Scaffold.Files.Tree
import Scaffold.Generation
import Scaffold.Json.Basic
import Scaffold.Json.Reader
import Scaffold.Layout
import Scaffold.Main
import Scaffold.Manifest
import Scaffold.Model
import Scaffold.Path
import Scaffold.Proofs.Batch.Covering
import Scaffold.Proofs.Batch.Plan
import Scaffold.Run
import Scaffold.Schema.Document
import Scaffold.Schema.Key
import Scaffold.Schema.Names
import Scaffold.Schema.Source
import Scaffold.Schema.Table
import Scaffold.Settings.Basic
import Scaffold.Settings.Load
import Scaffold.Settings.Record
import Scaffold.SqlType
import Scaffold.Statement.Template
import Scaffold.Text.Blank
import Scaffold.Text.Case
import Scaffold.Text.CharTables
import Scaffold.Text.Digits
import Scaffold.Text.Reader
import Scaffold.Text.Replace
import Scaffold.Text.Title
import Scaffold.Toml.Basic
import Scaffold.Toml.Reader
import Scaffold.Toml.Tree
import Scaffold.Proofs.Statement.Pieces
import Scaffold.Proofs.Text.Numbered
import Scaffold.Proofs.Statement.Rendering
import Scaffold.Proofs.Model
import Scaffold.Proofs.Schema.Key
import Scaffold.Proofs.Statement.ParameterNames
import Scaffold.Proofs.Statement.Markers
import Scaffold.Proofs.Backend.Constants
import Scaffold.Proofs.Backend.Methods
import Scaffold.Proofs.Backend.Issued
import Scaffold.Proofs.Batch.Overflow
import Scaffold.Proofs.Batch.Fitting
import Scaffold.Proofs.Text.Beginning
import Scaffold.Proofs.Text.Escaped
import Scaffold.Proofs.Statement.Addressing
import Scaffold.Proofs.Layout
import Scaffold.Proofs.Backend.Bindings
import Scaffold.Proofs.Backend.Properties
import Scaffold.Proofs.Backend.Members
import Scaffold.Proofs.Statement.Inserted
import Scaffold.Proofs.Client.InsertForm
import Scaffold.Proofs.Statement.Filled
import Scaffold.Proofs.Statement.Marked
import Scaffold.Proofs.Backend.Commands
import Scaffold.Proofs.Backend.Added
import Scaffold.Proofs.Keyed
import Scaffold.Proofs.Generation.Outcome
import Scaffold.Proofs.Artifact.Paths
import Scaffold.Proofs.Generation.Distinct
import Scaffold.Proofs.Path
import Scaffold.Proofs.Files.Tree
import Scaffold.Proofs.Files.Places
import Scaffold.Proofs.Run
import Scaffold.Proofs.Text.Split
import Scaffold.Proofs.Text.Trim
import Scaffold.Proofs.Generation.Selection
import Scaffold.Proofs.Files.Containment
import Scaffold.Proofs.Artifact.Containment
import Scaffold.Proofs.Generation.Defaults
import Scaffold.Proofs.Layout.Placed
import Scaffold.Proofs.Client.Reading
import Scaffold.Proofs.Client.Sources
import Scaffold.Proofs.Client.Plain
import Scaffold.Proofs.Client.References
import Scaffold.Proofs.Text.AsciiCase
import Scaffold.Proofs.Text.Joined
import Scaffold.Proofs.Statement.Updated
import Scaffold.Proofs.Schema.Fields
import Scaffold.Proofs.Generation.Entities
import Scaffold.Proofs.Text.Words
import Scaffold.Proofs.SqlType.Stem
import Scaffold.Proofs.SqlType.Unmapped
import Scaffold.Proofs.Schema.Resolved
import Scaffold.Proofs.CommandLine.Listing
import Scaffold.Proofs.Layout.Nested
import Scaffold.Proofs.Text.Reader
import Scaffold.Proofs.Text.Units
import Scaffold.Proofs.Backend.StringLiteral
import Scaffold.Proofs.Ddl.KeyFlags
