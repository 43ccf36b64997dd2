import ItemQuery.Main
import ItemQuery.Session
import ItemQuery.Host.InMemory
import ItemQuery.Proofs.Entry
import ItemQuery.Proofs.Supplement.Length
import ItemQuery.Proofs.Catalog
import ItemQuery.Proofs.Catalog.Table
import ItemQuery.Proofs.CategoryQuery
import ItemQuery.Proofs.CategoryQuery.Alternation
import ItemQuery.Proofs.CategoryQuery.Matching
import ItemQuery.Proofs.Pattern.Threshold
import ItemQuery.Proofs.Clause.Segments
import ItemQuery.Proofs.Supplement.Acceptance
import ItemQuery.Proofs.Supplement.Failure
import ItemQuery.Proofs.Feed
import ItemQuery.Proofs.Feed.Increments
import ItemQuery.Proofs.Selection
import ItemQuery.Proofs.Plan.Making
import ItemQuery.Proofs.Session
import ItemQuery.Proofs.Plan.Coverage
import ItemQuery.Proofs.Valuation
import ItemQuery.Proofs.Offers
import ItemQuery.Proofs.Selection.Ordered
import ItemQuery.Proofs.Plan.Filling
import ItemQuery.Proofs.Valuation.Shared
import ItemQuery.Proofs.Supplement.Cutoff
import ItemQuery.Proofs.Valuation.Appraisal
import ItemQuery.Proofs.Valuation.Missing
import ItemQuery.Proofs.Pattern.Large
import ItemQuery.Proofs.Valuation.Search
import ItemQuery.Proofs.Clause.Refusal
import ItemQuery.Proofs.Settings
import ItemQuery.Proofs.Catalog.Document
import ItemQuery.Proofs.Feed.Lines
import ItemQuery.Proofs.Minimum
import ItemQuery.Proofs.Selection.Resolution
import ItemQuery.Proofs.Modifiers.Lookup
import ItemQuery.Proofs.Feed.Sources
import ItemQuery.Proofs.Text.Collapse
import ItemQuery.Proofs.Pattern.Clausewise
import ItemQuery.Proofs.Valuation.Order
