import ModuleHooks.CommandLine.Arguments
import ModuleHooks.CommandLine.Help
import ModuleHooks.CommandLine.Report
import ModuleHooks.CommandLine.Run
import ModuleHooks.Decimal.Binary64
import ModuleHooks.Decimal.Shortest
import ModuleHooks.Discovery
import ModuleHooks.Domain.Address
import ModuleHooks.Domain.Composition
import ModuleHooks.Domain.CompositionTable
import ModuleHooks.Domain.Direction
import ModuleHooks.Domain.DirectionTable
import ModuleHooks.Domain.Joining
import ModuleHooks.Domain.JoiningTable
import ModuleHooks.Domain.Mapping
import ModuleHooks.Domain.MappingTable
import ModuleHooks.Domain.Name
import ModuleHooks.Domain.Punycode
import ModuleHooks.Engine.FormatDetection
import ModuleHooks.Engine.Hooked
import ModuleHooks.Engine.Loading
import ModuleHooks.Engine.Resolution
import ModuleHooks.Engine.State
import ModuleHooks.Failure
import ModuleHooks.FileSystem.Basic
import ModuleHooks.FileSystem.Tree
import ModuleHooks.Glob.Listing
import ModuleHooks.Glob.Pattern
import ModuleHooks.Host.FileHost
import ModuleHooks.Json.Document
import ModuleHooks.Json.Reader
import ModuleHooks.Json.Relaxed
import ModuleHooks.Json.Token
import ModuleHooks.Json.Value
import ModuleHooks.Json.Writer
import ModuleHooks.Main
import ModuleHooks.Module.Aggregate
import ModuleHooks.Module.Context
import ModuleHooks.Module.Format
import ModuleHooks.Module.Identity
import ModuleHooks.Package.Manifest
import ModuleHooks.Package.Targets
import ModuleHooks.Path.Basic
import ModuleHooks.Path.FileUrl
import ModuleHooks.Path.Memo
import ModuleHooks.Path.Normal
import ModuleHooks.PathMapping
import ModuleHooks.Proofs.Caches.Agreement
import ModuleHooks.Proofs.Caches.Boundary
import ModuleHooks.Proofs.Caches.Effect
import ModuleHooks.Proofs.Caches.Growth
import ModuleHooks.Proofs.Computation
import ModuleHooks.Proofs.Decimal.Reading
import ModuleHooks.Proofs.Decimal.Rounding
import ModuleHooks.Proofs.Decimal.Shortest
import ModuleHooks.Proofs.FileSystem.Layered
import ModuleHooks.Proofs.FileSystem.Regular
import ModuleHooks.Proofs.Glob.Listing
import ModuleHooks.Proofs.Glob.Literal
import ModuleHooks.Proofs.Glob.Reading
import ModuleHooks.Proofs.Glob.Segments
import ModuleHooks.Proofs.Glob.Visits
import ModuleHooks.Proofs.Host.Absence
import ModuleHooks.Proofs.Host.Packages
import ModuleHooks.Proofs.Json.Lexeme
import ModuleHooks.Proofs.Json.Members
import ModuleHooks.Proofs.Json.Number
import ModuleHooks.Proofs.Json.Phrases
import ModuleHooks.Proofs.Json.Plain
import ModuleHooks.Proofs.Json.Relaxed
import ModuleHooks.Proofs.Json.Rereading
import ModuleHooks.Proofs.Json.Written
import ModuleHooks.Proofs.Loading.Dependency
import ModuleHooks.Proofs.Loading.JsonModules
import ModuleHooks.Proofs.Loading.Preparation
import ModuleHooks.Proofs.Loading.Served
import ModuleHooks.Proofs.Loading.SourceMaps
import ModuleHooks.Proofs.Module.Identity
import ModuleHooks.Proofs.Module.Matches
import ModuleHooks.Proofs.Module.Reading
import ModuleHooks.Proofs.Module.Rendering
import ModuleHooks.Proofs.Package.Conditions
import ModuleHooks.Proofs.Package.Containment
import ModuleHooks.Proofs.Package.Exclusion
import ModuleHooks.Proofs.Package.Fallbacks
import ModuleHooks.Proofs.Package.Patterns
import ModuleHooks.Proofs.Package.PrivateNames
import ModuleHooks.Proofs.Package.Selection
import ModuleHooks.Proofs.Path.Below
import ModuleHooks.Proofs.Path.Components
import ModuleHooks.Proofs.Path.Composition
import ModuleHooks.Proofs.Path.Extension
import ModuleHooks.Proofs.Path.Memo
import ModuleHooks.Proofs.Path.Normal
import ModuleHooks.Proofs.Path.Order
import ModuleHooks.Proofs.Path.Relative
import ModuleHooks.Proofs.Path.Tidying
import ModuleHooks.Proofs.PathMapping
import ModuleHooks.Proofs.Pieces
import ModuleHooks.Proofs.Resolution.Candidates
import ModuleHooks.Proofs.Resolution.ExistingFile
import ModuleHooks.Proofs.Resolution.HostCalls
import ModuleHooks.Proofs.Resolution.Nesting
import ModuleHooks.Proofs.Resolution.PathSpecifier
import ModuleHooks.Proofs.Resolution.Plan
import ModuleHooks.Proofs.Resolution.Probes
import ModuleHooks.Proofs.Resolution.Reports
import ModuleHooks.Proofs.Resolution.RootAlias
import ModuleHooks.Proofs.Resolution.Turns
import ModuleHooks.Proofs.Resolution.Unlisted
import ModuleHooks.Proofs.Resolution.Unmapped
import ModuleHooks.Proofs.Resolution.WorkspaceAlias
import ModuleHooks.Proofs.Session
import ModuleHooks.Proofs.Text.Base64
import ModuleHooks.Proofs.Text.Order
import ModuleHooks.Proofs.Text.Utf8
import ModuleHooks.Proofs.Transform.Calls
import ModuleHooks.Proofs.Transform.Contents
import ModuleHooks.Proofs.Transform.Continuation
import ModuleHooks.Proofs.Transform.Insertion
import ModuleHooks.Proofs.Transform.Locality
import ModuleHooks.Proofs.Transform.Mappings
import ModuleHooks.Proofs.Transform.Partners
import ModuleHooks.Proofs.Transform.Reading
import ModuleHooks.Proofs.Transform.Relocation
import ModuleHooks.Proofs.Transform.Scan
import ModuleHooks.Proofs.Tsconfig.Admission
import ModuleHooks.Proofs.Tsconfig.Cache
import ModuleHooks.Proofs.Tsconfig.Cycles
import ModuleHooks.Proofs.Tsconfig.Governing
import ModuleHooks.Proofs.Tsconfig.Inheritance
import ModuleHooks.Proofs.Tsconfig.Loading
import ModuleHooks.Proofs.Workspace.Discovery
import ModuleHooks.Proofs.Workspace.PackageList
import ModuleHooks.Proofs.Workspace.Patterns
import ModuleHooks.Specifier
import ModuleHooks.Text.Base64
import ModuleHooks.Text.Basic
import ModuleHooks.Text.Blank
import ModuleHooks.Text.Hexadecimal
import ModuleHooks.Text.Letter
import ModuleHooks.Text.LetterTable
import ModuleHooks.Text.Packed
import ModuleHooks.Text.Utf8
import ModuleHooks.Transform.CodeToken
import ModuleHooks.Transform.DynamicImport
import ModuleHooks.Transform.SourceMap
import ModuleHooks.Transform.Transformer
import ModuleHooks.Tsconfig.Admission
import ModuleHooks.Tsconfig.Cache
import ModuleHooks.Tsconfig.Extended
import ModuleHooks.Tsconfig.Options
import ModuleHooks.Tsconfig.Reader
import ModuleHooks.Version
import ModuleHooks.Workspace.PackageList
import ModuleHooks.Workspace.Table
