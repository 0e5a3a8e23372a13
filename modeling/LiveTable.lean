import LiveTable.Arguments.Basic
import LiveTable.Arguments.Parser
import LiveTable.Calendar.Date
import LiveTable.Calendar.Instant
import LiveTable.Calendar.Timestamp
import LiveTable.Cell.Age
import LiveTable.Cell.Elapsed
import LiveTable.Cell.Labels
import LiveTable.Cell.Quantity
import LiveTable.Cell.Sentinel
import LiveTable.Character.Age
import LiveTable.Character.Age.Table
import LiveTable.Character.Boundary
import LiveTable.Character.Case
import LiveTable.Character.Case.Table
import LiveTable.Character.Category
import LiveTable.Character.Category.Table
import LiveTable.Character.CharSet
import LiveTable.Character.Edition
import LiveTable.Character.Name
import LiveTable.Character.Property
import LiveTable.Character.Property.Table
import LiveTable.Character.Script
import LiveTable.Character.Script.Shared
import LiveTable.Character.Script.Table
import LiveTable.Config.Basic
import LiveTable.Config.Settings
import LiveTable.Config.Watcher
import LiveTable.Console.Basic
import LiveTable.Console.Key
import LiveTable.Json.Basic
import LiveTable.Json.Decode
import LiveTable.Json.Order
import LiveTable.Json.Parser
import LiveTable.Json.Printer
import LiveTable.Keyed
import LiveTable.Main
import LiveTable.Number.Binary64
import LiveTable.Number.Decimal
import LiveTable.Number.Fixed
import LiveTable.Number.Reading
import LiveTable.Number.Width
import LiveTable.Pattern.Basic
import LiveTable.Pattern.ByteRange
import LiveTable.Pattern.Class
import LiveTable.Pattern.Escape
import LiveTable.Pattern.Flags
import LiveTable.Pattern.Parser
import LiveTable.Pattern.Reach
import LiveTable.Pattern.Size
import LiveTable.Pattern.Word
import LiveTable.Proofs.AccessAgreement
import LiveTable.Proofs.AccessText
import LiveTable.Proofs.AgeCells
import LiveTable.Proofs.Alignment
import LiveTable.Proofs.AmountCells
import LiveTable.Proofs.CapacityOrder
import LiveTable.Proofs.CellCharacters
import LiveTable.Proofs.CellFormats
import LiveTable.Proofs.CellOrder
import LiveTable.Proofs.Classification
import LiveTable.Proofs.ColumnFlags
import LiveTable.Proofs.ColumnNames
import LiveTable.Proofs.ConfiguredSort
import LiveTable.Proofs.DecimalRuns
import LiveTable.Proofs.Declaration
import LiveTable.Proofs.Difference
import LiveTable.Proofs.DisplacedRows
import LiveTable.Proofs.DocumentOrder
import LiveTable.Proofs.EmbeddedNumbers
import LiveTable.Proofs.FilterCalls
import LiveTable.Proofs.FilterGrammar
import LiveTable.Proofs.FilterNesting
import LiveTable.Proofs.FilterReading
import LiveTable.Proofs.FilterRoundTrip
import LiveTable.Proofs.FilterSpelling
import LiveTable.Proofs.FixedDecimals
import LiveTable.Proofs.FuzzyFilter
import LiveTable.Proofs.HalfEven
import LiveTable.Proofs.HealthCells
import LiveTable.Proofs.Hydration
import LiveTable.Proofs.Index
import LiveTable.Proofs.Invariant
import LiveTable.Proofs.Isolation
import LiveTable.Proofs.KindKeys
import LiveTable.Proofs.LabelChanges
import LiveTable.Proofs.LabelText
import LiveTable.Proofs.Layout
import LiveTable.Proofs.NaturalOrder
import LiveTable.Proofs.Notification
import LiveTable.Proofs.NumberedCells
import LiveTable.Proofs.PathNesting
import LiveTable.Proofs.Piping
import LiveTable.Proofs.PodDeletion
import LiveTable.Proofs.PodTotals
import LiveTable.Proofs.Polling
import LiveTable.Proofs.ProcessorCells
import LiveTable.Proofs.Projection
import LiveTable.Proofs.Provenance
import LiveTable.Proofs.Realization
import LiveTable.Proofs.Reconciliation
import LiveTable.Proofs.RepeatedRows
import LiveTable.Proofs.RepeatedValues
import LiveTable.Proofs.Rounding
import LiveTable.Proofs.RowOrder
import LiveTable.Proofs.Selection
import LiveTable.Proofs.Settling
import LiveTable.Proofs.Snapshot
import LiveTable.Proofs.SortStepping
import LiveTable.Proofs.SortedMembers
import LiveTable.Proofs.SortedOrder
import LiveTable.Proofs.SpecSplitting
import LiveTable.Proofs.Splitting
import LiveTable.Proofs.Subscripts
import LiveTable.Proofs.TextLines
import LiveTable.Proofs.TextSorting
import LiveTable.Proofs.Ticking
import LiveTable.Proofs.Toast
import LiveTable.Proofs.Trimming
import LiveTable.Proofs.UnsignedNumber
import LiveTable.Proofs.ValueOrder
import LiveTable.Proofs.ValueSorting
import LiveTable.Proofs.ViewFreshness
import LiveTable.Proofs.WholeDoubles
import LiveTable.Proofs.Wrapping
import LiveTable.Query.Basic
import LiveTable.Query.ColumnSpec
import LiveTable.Query.ColumnSpecs
import LiveTable.Query.Filter.Basic
import LiveTable.Query.Filter.Eval
import LiveTable.Query.Filter.Parser
import LiveTable.Query.Filter.Token
import LiveTable.Query.Path.Basic
import LiveTable.Query.Path.Parser
import LiveTable.Resource.Batch
import LiveTable.Resource.ClusterEvent
import LiveTable.Resource.Configuration
import LiveTable.Resource.Container
import LiveTable.Resource.Health
import LiveTable.Resource.Metadata
import LiveTable.Resource.Network
import LiveTable.Resource.Node
import LiveTable.Resource.Pod
import LiveTable.Resource.Registry
import LiveTable.Resource.Renderer
import LiveTable.Resource.Storage
import LiveTable.Resource.Typed
import LiveTable.Resource.Workload
import LiveTable.ResourceKind
import LiveTable.Scope
import LiveTable.Sorting.Drift
import LiveTable.Sorting.Small
import LiveTable.Table.Basic
import LiveTable.Table.Column
import LiveTable.Table.Event
import LiveTable.Table.Header
import LiveTable.Table.PlainText
import LiveTable.Table.Projection
import LiveTable.Table.Row
import LiveTable.Table.RowEvents
import LiveTable.Table.SortColumn
import LiveTable.Text.Base64
import LiveTable.Text.Blank
import LiveTable.Text.LetterCase
import LiveTable.Text.NaturalOrder
import LiveTable.Text.Quoted
import LiveTable.Text.Search
import LiveTable.Theme.Basic
import LiveTable.Theme.Colour
import LiveTable.Watch.Basic
import LiveTable.Watch.Listing
import LiveTable.Watch.Request
import LiveTable.Yaml.Cursor
import LiveTable.Yaml.Decode
import LiveTable.Yaml.Node
import LiveTable.Yaml.Scalar
import LiveTable.Yaml.Token
