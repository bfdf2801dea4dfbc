import EntityCatalog.Catalog.Evaluation
import EntityCatalog.Enumeration.Declaration
import EntityCatalog.Log.Line
import EntityCatalog.Profile
import EntityCatalog.Record.Report
import EntityCatalog.Registry.Shared
import EntityCatalog.Settings
import EntityCatalog.Transform.Standard
import EntityCatalog.Validator.Sameness
import EntityCatalog.Proofs.Catalog.Depth
import EntityCatalog.Proofs.Catalog.Rows
import EntityCatalog.Proofs.Catalog.CompleteRows
import EntityCatalog.Proofs.Catalog.Description
import EntityCatalog.Proofs.Catalog.Consultation
import EntityCatalog.Proofs.Introspector.Memory
import EntityCatalog.Proofs.Registry
import EntityCatalog.Proofs.Registration.Circles
import EntityCatalog.Proofs.Registration.Closure
import EntityCatalog.Proofs.Registration.Columns
import EntityCatalog.Proofs.Registration.DeclarationOrder
import EntityCatalog.Proofs.Registration.Evaluation
import EntityCatalog.Proofs.Registration.References
import EntityCatalog.Proofs.Registration.Roles
import EntityCatalog.Proofs.Registration.Series
import EntityCatalog.Proofs.Registration.Arrays
import EntityCatalog.Proofs.Registration.Failure
import EntityCatalog.Proofs.Registration.Dependencies
import EntityCatalog.Proofs.Registration.WellFormed
import EntityCatalog.Proofs.Registration.Purity
import EntityCatalog.Proofs.Registration.Repetition
import EntityCatalog.Proofs.Outline
import EntityCatalog.Proofs.Registration.Completion
import EntityCatalog.Proofs.Registration.Relevance
import EntityCatalog.Proofs.Registration.Completeness
import EntityCatalog.Proofs.Registration.Calls
import EntityCatalog.Proofs.Registration.Part
import EntityCatalog.Proofs.Registration.Successive
import EntityCatalog.Proofs.Derivation.Acceptance
import EntityCatalog.Proofs.Registration.Enumerations
import EntityCatalog.Proofs.ReferenceGraph.Canonical
import EntityCatalog.Proofs.Consistency.DeclaredType
import EntityCatalog.Proofs.Consistency.FirstViolation
import EntityCatalog.Proofs.Batch.Rewriting
import EntityCatalog.Proofs.Registration.ReportedColumns
import EntityCatalog.Proofs.Derivation.Meaning
