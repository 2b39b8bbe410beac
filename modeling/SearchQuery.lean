import SearchQuery.CommandLine.Arguments
import SearchQuery.CommandLine.Run
import SearchQuery.Compile.Query
import SearchQuery.Json.Printer
import SearchQuery.Json.Reader
import SearchQuery.Main
import SearchQuery.Mapping
import SearchQuery.Query.Reader
import SearchQuery.Query.Writer
import SearchQuery.Request.Writer
import SearchQuery.Proofs.Outcome
import SearchQuery.Proofs.Meaning
import SearchQuery.Proofs.Pruning
import SearchQuery.Proofs.Json.Reading
import SearchQuery.Proofs.Json.Nesting
import SearchQuery.Proofs.Rendering
import SearchQuery.Proofs.NormalForm
import SearchQuery.Proofs.Query.Acceptance
import SearchQuery.Proofs.ReadingBack
import SearchQuery.Proofs.Query.RoundTrip
import SearchQuery.Proofs.Mapping.Listing
import SearchQuery.Proofs.Query.Agreement
import SearchQuery.Proofs.Accounting
import SearchQuery.Proofs.CompiledForm
import SearchQuery.Proofs.Loosening
import SearchQuery.Proofs.Subgroups
import SearchQuery.Proofs.Mapping.Merging
import SearchQuery.Proofs.Query.Depth
import SearchQuery.Proofs.CommandLine.Layout
import SearchQuery.Proofs.Conditions
import SearchQuery.Proofs.Tags
import SearchQuery.Proofs.Mapping.Starts
import SearchQuery.Proofs.Clause.Filling
import SearchQuery.Proofs.Request.Building
import SearchQuery.Proofs.Request.Conjunction
import SearchQuery.Proofs.Request.Paging
