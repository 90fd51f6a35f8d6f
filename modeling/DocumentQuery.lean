import DocumentQuery.Text.Blank
import DocumentQuery.Text.Range
import DocumentQuery.Text.Split
import DocumentQuery.Text.Alphabetic
import DocumentQuery.Text.CaseTable
import DocumentQuery.Text.Replace
import DocumentQuery.Text.Case
import DocumentQuery.Text.Numeral
import DocumentQuery.Text.Percent
import DocumentQuery.Binary64.Basic
import DocumentQuery.Binary64.Decimal
import DocumentQuery.Calendar.Date
import DocumentQuery.Calendar.Instant
import DocumentQuery.Calendar.Layout
import DocumentQuery.Calendar.Format
import DocumentQuery.Json.Members
import DocumentQuery.Json.Basic
import DocumentQuery.Json.Draft
import DocumentQuery.Json.Order
import DocumentQuery.Json.Printer
import DocumentQuery.Json.Indented
import DocumentQuery.Json.Path
import DocumentQuery.Json.Reader
import DocumentQuery.Json.Form
import DocumentQuery.Pattern.Basic
import DocumentQuery.Pattern.Reader
import DocumentQuery.Expression.Fault
import DocumentQuery.Expression.Arithmetic
import DocumentQuery.Expression.Texts
import DocumentQuery.Expression.Dates
import DocumentQuery.Expression.Evaluation
import DocumentQuery.Predicate
import DocumentQuery.Filter.Fault
import DocumentQuery.Filter.Token
import DocumentQuery.Filter.Condition
import DocumentQuery.Filter.Reader
import DocumentQuery.Filter.Policy
import DocumentQuery.Query.Parameters
import DocumentQuery.Query.Basic
import DocumentQuery.Query.Document
import DocumentQuery.Query.Reader
import DocumentQuery.Compute.Formula
import DocumentQuery.Compute.Reader
import DocumentQuery.Compute.Document
import DocumentQuery.Compute.Lowering
import DocumentQuery.Pipeline.Sort
import DocumentQuery.Pipeline.Stage
import DocumentQuery.Pipeline.Group
import DocumentQuery.Pipeline.Run
import DocumentQuery.Plan.Settings
import DocumentQuery.Plan.Paging
import DocumentQuery.Plan.Basic
import DocumentQuery.Failure
import DocumentQuery.Store.Clock
import DocumentQuery.Store.Identifiers
import DocumentQuery.Store.Basic
import DocumentQuery.Store.Changes
import DocumentQuery.Execution
import DocumentQuery.Explain
import DocumentQuery.EntitySet
import DocumentQuery.Batch.Request
import DocumentQuery.Batch.Changeset
import DocumentQuery.Batch.Process
import DocumentQuery.Metadata.Basic
import DocumentQuery.Metadata.Printer
import DocumentQuery.Coercion
import DocumentQuery.Server.MediaType
import DocumentQuery.Server.Route
import DocumentQuery.Server.Request
import DocumentQuery.Server.Settings
import DocumentQuery.Server.Basic
import DocumentQuery.Event
import DocumentQuery.Command
import DocumentQuery.Main
import DocumentQuery.Proofs.Except
import DocumentQuery.Proofs.Collecting
import DocumentQuery.Proofs.Text.Folding
import DocumentQuery.Proofs.Text.Lists
import DocumentQuery.Proofs.Text.Percent
import DocumentQuery.Proofs.Text.Trimming
import DocumentQuery.Proofs.Binary64.Rounding
import DocumentQuery.Proofs.Binary64.Integers
import DocumentQuery.Proofs.Calendar.Days
import DocumentQuery.Proofs.Calendar.Digits
import DocumentQuery.Proofs.Calendar.Canonical
import DocumentQuery.Proofs.Json.Members
import DocumentQuery.Proofs.Json.Removal
import DocumentQuery.Proofs.Json.Sameness
import DocumentQuery.Proofs.Json.Order
import DocumentQuery.Proofs.Json.Path
import DocumentQuery.Proofs.Json.Distinct
import DocumentQuery.Proofs.Json.Places
import DocumentQuery.Proofs.Json.Equality
import DocumentQuery.Proofs.Json.Repeats
import DocumentQuery.Proofs.Pattern.Matching
import DocumentQuery.Proofs.Pattern.Escape
import DocumentQuery.Proofs.Predicate
import DocumentQuery.Proofs.Filter.Spelling
import DocumentQuery.Proofs.Filter.Grammar
import DocumentQuery.Proofs.Filter.Admission
import DocumentQuery.Proofs.Filter.SingleTests
import DocumentQuery.Proofs.Filter.Parsing
import DocumentQuery.Proofs.Filter.Tests
import DocumentQuery.Proofs.Filter.Trees
import DocumentQuery.Proofs.Filter.Meaning
import DocumentQuery.Proofs.Filter.Renaming
import DocumentQuery.Proofs.Filter.Misnaming
import DocumentQuery.Proofs.Filter.Policy
import DocumentQuery.Proofs.Query.Parameters
import DocumentQuery.Proofs.Query.Reading
import DocumentQuery.Proofs.Query.Grouping
import DocumentQuery.Proofs.Query.Link
import DocumentQuery.Proofs.Query.Encoding
import DocumentQuery.Proofs.Compute.Printing
import DocumentQuery.Proofs.Compute.Spelling
import DocumentQuery.Proofs.Compute.Temporaries
import DocumentQuery.Proofs.Compute.Value
import DocumentQuery.Proofs.Compute.Reading
import DocumentQuery.Proofs.Compute.Native
import DocumentQuery.Proofs.Compute.Simulation
import DocumentQuery.Proofs.Compute.TextTests
import DocumentQuery.Proofs.Compute.Preservation
import DocumentQuery.Proofs.Compute.TextParts
import DocumentQuery.Proofs.Pipeline.Groups
import DocumentQuery.Proofs.Pipeline.Rows
import DocumentQuery.Proofs.Pipeline.Aggregates
import DocumentQuery.Proofs.Pipeline.RepeatedFields
import DocumentQuery.Proofs.Pipeline.Partition
import DocumentQuery.Proofs.Pipeline.Lengths
import DocumentQuery.Proofs.Pipeline.Joins
import DocumentQuery.Proofs.Pipeline.Sorting
import DocumentQuery.Proofs.Pipeline.Stability
import DocumentQuery.Proofs.Pipeline.Flattening
import DocumentQuery.Proofs.Pipeline.RepeatedKeys
import DocumentQuery.Proofs.Pipeline.Expansions
import DocumentQuery.Proofs.Plan.Documents
import DocumentQuery.Proofs.Plan.Meaning
import DocumentQuery.Proofs.Store.Writing
import DocumentQuery.Proofs.Store.PlainKeys
import DocumentQuery.Proofs.Store.Setbacks
import DocumentQuery.Proofs.Store.Built
import DocumentQuery.Proofs.Store.Stamps
import DocumentQuery.Proofs.Store.Traffic
import DocumentQuery.Proofs.Store.Marks
import DocumentQuery.Proofs.Store.Interleaving
import DocumentQuery.Proofs.Execution.Answers
import DocumentQuery.Proofs.Execution.Pages
import DocumentQuery.Proofs.Execution.Stages
import DocumentQuery.Proofs.Execution.Counts
import DocumentQuery.Proofs.Execution.Demands
import DocumentQuery.Proofs.Execution.Forms
import DocumentQuery.Proofs.Execution.Links
import DocumentQuery.Proofs.Execution.Groups
import DocumentQuery.Proofs.Execution.PageSizes
import DocumentQuery.Proofs.Execution.Refusals
import DocumentQuery.Proofs.Execution.Offsets
import DocumentQuery.Proofs.Batch.Effect
import DocumentQuery.Proofs.Batch.Overlay
import DocumentQuery.Proofs.Batch.Atomicity
import DocumentQuery.Proofs.Batch.Writes
import DocumentQuery.Proofs.Batch.Identities
import DocumentQuery.Proofs.Batch.IdentityKeys
import DocumentQuery.Proofs.Batch.Ordering
import DocumentQuery.Proofs.Batch.Addressing
import DocumentQuery.Proofs.Batch.Verdict
import DocumentQuery.Proofs.Batch.Walks
import DocumentQuery.Proofs.Metadata.Layout
import DocumentQuery.Proofs.Coercion
import DocumentQuery.Proofs.Server.Writes
import DocumentQuery.Proofs.Server.Identities
import DocumentQuery.Proofs.Server.Routing
import DocumentQuery.Proofs.Server.Walks
import DocumentQuery.Proofs.Server.Changes
import DocumentQuery.Proofs.Server.Naming
import DocumentQuery.Proofs.Server.Updates
import DocumentQuery.Proofs.Agreement
import DocumentQuery.Proofs.Places
