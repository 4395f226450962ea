import BundleBinding.Annotation
import BundleBinding.Binding.Linking
import BundleBinding.Binding.Problem
import BundleBinding.Binding.Scan
import BundleBinding.Binding.Spec
import BundleBinding.Bundle
import BundleBinding.CommandLine.Outcome
import BundleBinding.CommandLine.Request
import BundleBinding.Config
import BundleBinding.Diagnostic
import BundleBinding.Fault
import BundleBinding.FileTree
import BundleBinding.Java.Output
import BundleBinding.Java.Source
import BundleBinding.Json.Basic
import BundleBinding.Json.Number
import BundleBinding.Json.Printer
import BundleBinding.Json.Reader
import BundleBinding.Kind
import BundleBinding.Number.Binary
import BundleBinding.Number.Shortest
import BundleBinding.Program.Index
import BundleBinding.Program.Method
import BundleBinding.Program.Model
import BundleBinding.Program.Text
import BundleBinding.Registry
import BundleBinding.Service.Binder
import BundleBinding.Service.Cache
import BundleBinding.Service.Factory
import BundleBinding.Text.Alphanumeric
import BundleBinding.Text.Characters
import BundleBinding.Text.Parsed
import BundleBinding.Text.Quoted
import BundleBinding.Text.Uppercase
import BundleBinding.Toml.Basic
import BundleBinding.Toml.Number
import BundleBinding.Toml.Printer
import BundleBinding.Toml.Reader
import BundleBinding.Toml.Text
import BundleBinding.Type.Assignable
import BundleBinding.Type.Basic
import BundleBinding.Type.Hierarchy
import BundleBinding.Type.Name
import BundleBinding.Type.Syntax
import BundleBinding.Unvisited
import BundleBinding.Value.Basic
import BundleBinding.Value.Json
import BundleBinding.Value.Parcel
import BundleBinding.Yaml.Cursor
import BundleBinding.Yaml.Document
import BundleBinding.Yaml.Event
import BundleBinding.Yaml.Scalar
import BundleBinding.Yaml.Tag
import BundleBinding.Yaml.Token
import BundleBinding.Yaml.Token.Lexer
import BundleBinding.Main
import BundleBinding.Proofs.ScanDrafts
import BundleBinding.Proofs.SuperclassChain
import BundleBinding.Proofs.Ancestors
import BundleBinding.Proofs.LinkingInvariant
import BundleBinding.Proofs.Resolution
import BundleBinding.Proofs.HostScan
import BundleBinding.Proofs.HostFields
import BundleBinding.Proofs.DiscoveryOrder
import BundleBinding.Proofs.WrittenTypes
import BundleBinding.Proofs.CacheRuns
import BundleBinding.Proofs.Widening
import BundleBinding.Proofs.SparseArrays
import BundleBinding.Proofs.ValuesInJson
import BundleBinding.Proofs.Traversal
import BundleBinding.Proofs.Invocation
import BundleBinding.Proofs.FilledBundles
import BundleBinding.Proofs.JsonArguments
import BundleBinding.Proofs.SubtypeSearch
import BundleBinding.Proofs.LoadedPrograms
import BundleBinding.Proofs.Delegation
import BundleBinding.Proofs.IndexCalls
import BundleBinding.Proofs.EagerValidation
import BundleBinding.Proofs.QualifiedNames
import BundleBinding.Proofs.GeneratedPaths
import BundleBinding.Proofs.WrittenFiles
import BundleBinding.Proofs.ScanReports
import BundleBinding.Proofs.Signatures
import BundleBinding.Proofs.InvocationOutcomes
import BundleBinding.Proofs.SeveralAnnotations
import BundleBinding.Proofs.NearestBound
import BundleBinding.Proofs.StalledQueues
import BundleBinding.Proofs.CycleReports
import BundleBinding.Proofs.Announcements
import BundleBinding.Proofs.SelfAssignment
import BundleBinding.Proofs.Substitution
import BundleBinding.Proofs.AddedSupertypes
import BundleBinding.Proofs.UncastReads
import BundleBinding.Proofs.KeyLiterals
import BundleBinding.Proofs.LineStructure
import BundleBinding.Proofs.IntegersInJson
import BundleBinding.Proofs.Overflow
import BundleBinding.Proofs.RereadArguments
import BundleBinding.Proofs.RefusedCalls
import BundleBinding.Proofs.ScanPrefixes
import BundleBinding.Proofs.NameDivision
