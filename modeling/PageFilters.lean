import PageFilters.Failure
import PageFilters.FilterSpec
import PageFilters.Main
import PageFilters.Proofs.Piece
import PageFilters.Proofs.Plan
import PageFilters.Proofs.Rendering
import PageFilters.Proofs.Backlog
import PageFilters.Proofs.Producer
import PageFilters.Proofs.Drain
import PageFilters.Proofs.Session
import PageFilters.Proofs.Expansion
import PageFilters.Proofs.Item
import PageFilters.Proofs.Lines
import PageFilters.Proofs.Scanners
import PageFilters.Proofs.Paragraphs
import PageFilters.Proofs.Rewriting
import PageFilters.Proofs.Direct
import PageFilters.Proofs.Page
import PageFilters.Proofs.Outcome
import PageFilters.Proofs.Sealed
import PageFilters.Proofs.Serving
import PageFilters.Proofs.Leaking
import PageFilters.Proofs.Leakproof
import PageFilters.Proofs.Fragments
import PageFilters.Proofs.Recency
import PageFilters.Proofs.Caching
import PageFilters.Proofs.Changes
import PageFilters.Proofs.Lifecycle
import PageFilters.Proofs.Turns
import PageFilters.Proofs.Finishing
import PageFilters.Proofs.Ledger
import PageFilters.Proofs.Turnover
import PageFilters.Proofs.Workload
import PageFilters.Proofs.PipeLists
import PageFilters.Proofs.Working
import PageFilters.Proofs.Fuel
import PageFilters.Proofs.Acceptance
import PageFilters.Proofs.Census
import PageFilters.Proofs.Edits
import PageFilters.Proofs.Passes
import PageFilters.Proofs.Quiet
import PageFilters.Proofs.Breakdown
import PageFilters.Proofs.Generations
import PageFilters.Proofs.Decoding
import PageFilters.Proofs.Repeating
import PageFilters.Proofs.Avoiding
import PageFilters.Proofs.Tapping
import PageFilters.Proofs.Twins
import PageFilters.Proofs.Transparent
import PageFilters.Proofs.Tidying
import PageFilters.Proofs.Entries
import PageFilters.Proofs.Splicing
import PageFilters.Proofs.PercentCoding
import PageFilters.Proofs.Rounds
import PageFilters.Proofs.Cutting
import PageFilters.Proofs.Wrapping
import PageFilters.Proofs.Condensing
import PageFilters.Proofs.Entities
import PageFilters.Proofs.Reports
import PageFilters.Proofs.Interchange
import PageFilters.Proofs.Queueing
import PageFilters.Proofs.Fields
import PageFilters.Proofs.Layering
import PageFilters.Proofs.Overrides
