import ClassOrder.Main
import ClassOrder.Proofs.ClassList.Canonical
import ClassOrder.Proofs.CommandLine.Checking
import ClassOrder.Proofs.CommandLine.Formatting
import ClassOrder.Proofs.CommandLine.Tidying
import ClassOrder.Proofs.ClassList.Splitting
import ClassOrder.Proofs.Config.Circularity
import ClassOrder.Proofs.Config.Loading
import ClassOrder.Proofs.Config.Lookup
import ClassOrder.Proofs.Config.Precedence
import ClassOrder.Proofs.Config.Shape
import ClassOrder.Proofs.Index.Pooling
import ClassOrder.Proofs.Index.Positions
import ClassOrder.Proofs.Index.Removal
import ClassOrder.Proofs.Index.Skipping
import ClassOrder.Proofs.Markup.Settled
import ClassOrder.Proofs.Plugin.Marking
import ClassOrder.Proofs.Plugin.Session
import ClassOrder.Proofs.Json.Newline
import ClassOrder.Proofs.Json.Reading
import ClassOrder.Proofs.Sorter.Colors
import ClassOrder.Proofs.Sorter.Failure
import ClassOrder.Proofs.Sorter.Prefix
import ClassOrder.Proofs.Sorter.Provenance
import ClassOrder.Proofs.Sorter.Reconfiguring
import ClassOrder.Proofs.Sorter.Reporting
import ClassOrder.Proofs.Sorter.Spacing
import ClassOrder.Proofs.Style.Escaping
import ClassOrder.Proofs.Style.Sharing
import ClassOrder.Proofs.Style.Traversal
