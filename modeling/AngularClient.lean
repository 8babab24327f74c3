import AngularClient.Binary64
import AngularClient.CommandLine.Reader
import AngularClient.CommandLine.Run
import AngularClient.Config.Loading
import AngularClient.Console
import AngularClient.Dictionary
import AngularClient.Diff.Script
import AngularClient.Diff.Settled
import AngularClient.Diff.Unified
import AngularClient.Files.Output
import AngularClient.Files.Store
import AngularClient.Json.Basic
import AngularClient.Json.Document
import AngularClient.Json.Reader
import AngularClient.Json.Record
import AngularClient.Main
import AngularClient.Model.Basic
import AngularClient.Model.Collection
import AngularClient.Model.Described
import AngularClient.Module.Generation
import AngularClient.Module.Resource
import AngularClient.Module.Services
import AngularClient.Options.Basic
import AngularClient.Options.Reader
import AngularClient.Proofs.CommandLine.Arguments
import AngularClient.Proofs.CommandLine.Changes
import AngularClient.Proofs.CommandLine.Regeneration
import AngularClient.Proofs.Config.Environment
import AngularClient.Proofs.Config.Layers
import AngularClient.Proofs.Config.Precedence
import AngularClient.Proofs.Dictionary
import AngularClient.Proofs.Diff.Hunk
import AngularClient.Proofs.Diff.Patch
import AngularClient.Proofs.Diff.Script
import AngularClient.Proofs.Diff.Settled
import AngularClient.Proofs.Except
import AngularClient.Proofs.Files.Apart
import AngularClient.Proofs.Files.Block
import AngularClient.Proofs.Files.Changes
import AngularClient.Proofs.Files.Output
import AngularClient.Proofs.Files.Path
import AngularClient.Proofs.Files.Store
import AngularClient.Proofs.Json.Breaks
import AngularClient.Proofs.Json.Record
import AngularClient.Proofs.Json.Values
import AngularClient.Proofs.Lists
import AngularClient.Proofs.Model.Accounts
import AngularClient.Proofs.Model.Augmented
import AngularClient.Proofs.Model.Collection
import AngularClient.Proofs.Model.Kept
import AngularClient.Proofs.Model.Lookups
import AngularClient.Proofs.Model.NameSpace
import AngularClient.Proofs.Model.Redeclared
import AngularClient.Proofs.Model.Reordered
import AngularClient.Proofs.Model.Skipped
import AngularClient.Proofs.Model.Snapshot
import AngularClient.Proofs.Module.ActionKeys
import AngularClient.Proofs.Module.Assignments
import AngularClient.Proofs.Module.Blocks
import AngularClient.Proofs.Module.Downlevel
import AngularClient.Proofs.Module.Factory
import AngularClient.Proofs.Module.Generation
import AngularClient.Proofs.Module.Keys
import AngularClient.Proofs.Module.Literals
import AngularClient.Proofs.Module.Lowering
import AngularClient.Proofs.Module.NormalForm
import AngularClient.Proofs.Module.Paths
import AngularClient.Proofs.Module.Rendering
import AngularClient.Proofs.Module.Squeeze
import AngularClient.Proofs.Registry.Definitions
import AngularClient.Proofs.Registry.References
import AngularClient.Proofs.Registry.Repeated
import AngularClient.Proofs.Registry.RoundTrip
import AngularClient.Proofs.Registry.Written
import AngularClient.Proofs.Relation.AccessorNames
import AngularClient.Proofs.Relation.Accessors
import AngularClient.Proofs.Relation.Attachment
import AngularClient.Proofs.Relation.ClassOrder
import AngularClient.Proofs.Relation.Described
import AngularClient.Proofs.Relation.Effect
import AngularClient.Proofs.Relation.Entries
import AngularClient.Proofs.Relation.Grammar
import AngularClient.Proofs.Relation.Homonyms
import AngularClient.Proofs.Relation.Latch
import AngularClient.Proofs.Relation.NameSpace
import AngularClient.Proofs.Relation.Notes
import AngularClient.Proofs.Relation.Origin
import AngularClient.Proofs.Relation.Parameters
import AngularClient.Proofs.Relation.Passes
import AngularClient.Proofs.Relation.Reachable
import AngularClient.Proofs.Relation.Resolution
import AngularClient.Proofs.Relation.Reverses
import AngularClient.Proofs.Relation.Run
import AngularClient.Proofs.Relation.Slots
import AngularClient.Proofs.Relation.Spelling
import AngularClient.Proofs.Relation.Targets
import AngularClient.Proofs.Template.Names
import AngularClient.Proofs.Template.Rendering
import AngularClient.Proofs.Template.Shape
import AngularClient.Proofs.Text.Bytes
import AngularClient.Proofs.Text.Case
import AngularClient.Proofs.Text.Comment
import AngularClient.Proofs.Text.Identifier
import AngularClient.Proofs.Text.Literal
import AngularClient.Proofs.Text.Replace
import AngularClient.Proofs.Text.Search
import AngularClient.Proofs.Toml.Overlay
import AngularClient.Proofs.Toml.Paths
import AngularClient.Proofs.Toml.Record
import AngularClient.Proofs.View.Bindings
import AngularClient.Proofs.View.Comments
import AngularClient.Proofs.View.OfModels
import AngularClient.Registry.Basic
import AngularClient.Registry.Reader
import AngularClient.Registry.Writer
import AngularClient.Relation.Scopes
import AngularClient.Template.Rendering
import AngularClient.Text.Basic
import AngularClient.Text.Case
import AngularClient.Text.CaseTable
import AngularClient.Text.Cluster
import AngularClient.Text.GraphicTable
import AngularClient.Text.Quoting
import AngularClient.Toml.Basic
import AngularClient.Toml.Moment
import AngularClient.Toml.Reader
import AngularClient.Toml.Scalar
import AngularClient.Toml.Scan
import AngularClient.Toml.Table
import AngularClient.View.Basic
import AngularClient.View.OfModels
