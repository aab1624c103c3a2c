import Attest.Config
import Attest.Config.Discovery
import Attest.Config.Reading
import Attest.Expectation
import Attest.Failure
import Attest.Files.FileSystem
import Attest.Files.Path
import Attest.Glob
import Attest.Json.Document
import Attest.Json.Reader
import Attest.Json.Writer
import Attest.Layout
import Attest.Matcher
import Attest.Number.Floating
import Attest.Number.Notation
import Attest.Number.Reading
import Attest.Number.Rounding
import Attest.Number.Shortest
import Attest.Proofs.BlockMappings
import Attest.Proofs.CollectedElements
import Attest.Proofs.ConfigurationChanges
import Attest.Proofs.ConfigurationFiles
import Attest.Proofs.ConsistentOrder
import Attest.Proofs.Decimals
import Attest.Proofs.DeclaredNames
import Attest.Proofs.DocumentContents
import Attest.Proofs.DocumentImages
import Attest.Proofs.FailureDocuments
import Attest.Proofs.HeapPointers
import Attest.Proofs.Histories
import Attest.Proofs.Identities
import Attest.Proofs.JsonRoundTrip
import Attest.Proofs.LegibleValues
import Attest.Proofs.LiteralExpressions
import Attest.Proofs.LiteralPatterns
import Attest.Proofs.Locations
import Attest.Proofs.Messages
import Attest.Proofs.NearestConfiguration
import Attest.Proofs.OneLineMessages
import Attest.Proofs.PlainLines
import Attest.Proofs.PointerStacks
import Attest.Proofs.QuotedTexts
import Attest.Proofs.SelfComparison
import Attest.Proofs.SharedOrder
import Attest.Proofs.ShownParts
import Attest.Proofs.SortedCollections
import Attest.Proofs.TextContents
import Attest.Proofs.TextOrder
import Attest.Proofs.Truncations
import Attest.Proofs.TruthAndLength
import Attest.Proofs.Verdicts
import Attest.Regex.Basic
import Attest.Regex.CharClass
import Attest.Regex.Reader
import Attest.Registry.Basic
import Attest.Registry.Identifier
import Attest.Registry.Shared
import Attest.Registry.TestBody
import Attest.Renderer
import Attest.Text.Order
import Attest.Text.Quoted
import Attest.Text.Search
import Attest.Text.Truncation
import Attest.Unicode.Category
import Attest.Unicode.Folding
import Attest.Unicode.ListedProperty
import Attest.Unicode.Property
import Attest.Unicode.PropertyName
import Attest.Unicode.RangeTable
import Attest.Unicode.Script
import Attest.Value.Collection
import Attest.Value.Equality
import Attest.Value.Heap
import Attest.Value.Identity
import Attest.Value.Kind
import Attest.Value.Membership
import Attest.Value.Order
import Attest.Value.Rendering
import Attest.Value.Structured
import Attest.Value.Truth
import Attest.Yaml.Cursor
import Attest.Yaml.Node
import Attest.Yaml.Scalar
import Attest.Yaml.Tag
import Attest.Yaml.Token
