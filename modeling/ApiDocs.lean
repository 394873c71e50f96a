import ApiDocs.Rendering
import ApiDocs.Graph.Decoding
import ApiDocs.Proofs.Building
import ApiDocs.Proofs.Entities
import ApiDocs.Proofs.Canonical
import ApiDocs.Proofs.Identifiers
import ApiDocs.Proofs.Declarations
import ApiDocs.Proofs.Snippets
import ApiDocs.Proofs.Documentation
import ApiDocs.Proofs.Links
import ApiDocs.Proofs.Faults
import ApiDocs.Proofs.Collections
import ApiDocs.Proofs.Languages
import ApiDocs.Proofs.Uniqueness
import ApiDocs.Proofs.Diagnostics
import ApiDocs.Proofs.Likeness
import ApiDocs.Proofs.Protected
import ApiDocs.Proofs.Reordering
import ApiDocs.Proofs.Templates
import ApiDocs.Proofs.Anchors
import ApiDocs.Proofs.Fences
import ApiDocs.Proofs.DiagnosticOrder
import ApiDocs.Proofs.Presentation
import ApiDocs.Proofs.Descent
import ApiDocs.Proofs.DiagnosticLog
import ApiDocs.Proofs.Expressible
import ApiDocs.Proofs.ReservedWords
import ApiDocs.Proofs.Readability
import ApiDocs.Proofs.Headings
import ApiDocs.Proofs.Implementations
import ApiDocs.Proofs.Resolution
import ApiDocs.Proofs.Calls
import ApiDocs.Proofs.WordBoundaries
import ApiDocs.Proofs.PascalCase
import ApiDocs.Proofs.Revisions
import ApiDocs.Proofs.GraphRevisions
