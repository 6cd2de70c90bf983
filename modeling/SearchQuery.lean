import SearchQuery.Json.Printer
import SearchQuery.Json.Reader
import SearchQuery.Proofs.CompiledTrees
import SearchQuery.Proofs.DocumentMeaning
import SearchQuery.Proofs.Grouping
import SearchQuery.Proofs.MinimumShould
import SearchQuery.Proofs.Presence
import SearchQuery.Proofs.Provenance
import SearchQuery.Proofs.RangeUnions
import SearchQuery.Proofs.Forms
import SearchQuery.Proofs.RangeIntersections
import SearchQuery.Proofs.BoundedConditions
import SearchQuery.Proofs.FilledSets
import SearchQuery.Proofs.MixedOrder
import SearchQuery.Proofs.DocumentedVersions
import SearchQuery.Proofs.Irreducible
import SearchQuery.Proofs.Milliseconds
import SearchQuery.Proofs.WholeTerms
import SearchQuery.Proofs.EditScripts
import SearchQuery.Proofs.TreeSizes
import SearchQuery.Proofs.FieldPaths
import SearchQuery.Proofs.Trails
import SearchQuery.Proofs.OperandOrder
