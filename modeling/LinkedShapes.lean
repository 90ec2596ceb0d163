import LinkedShapes.CommandLine.Command
import LinkedShapes.CommandLine.Options
import LinkedShapes.CommandLine.Outcome
import LinkedShapes.CommandLine.Path
import LinkedShapes.Configuration
import LinkedShapes.GraphQL.Answer
import LinkedShapes.GraphQL.Description
import LinkedShapes.GraphQL.Document
import LinkedShapes.GraphQL.Execution
import LinkedShapes.GraphQL.Grammar
import LinkedShapes.GraphQL.Lexis
import LinkedShapes.GraphQL.Literal
import LinkedShapes.GraphQL.Request
import LinkedShapes.GraphQL.TypeRef
import LinkedShapes.GraphQL.TypeSystem
import LinkedShapes.GraphQL.Validation
import LinkedShapes.GraphQL.Validation.Fragment
import LinkedShapes.GraphQL.Validation.Selection
import LinkedShapes.GraphQL.Validation.Site
import LinkedShapes.GraphQL.Validation.Value
import LinkedShapes.GraphQL.Validation.Variable
import LinkedShapes.GraphQL.Validation.Violation
import LinkedShapes.Http.Client
import LinkedShapes.Http.Message
import LinkedShapes.Http.Redirection
import LinkedShapes.Http.Uri
import LinkedShapes.Iri.Character
import LinkedShapes.Iri.Fault
import LinkedShapes.Iri.Host
import LinkedShapes.Iri.Reference
import LinkedShapes.Iri.Resolution
import LinkedShapes.Json.Printer
import LinkedShapes.Json.Reader
import LinkedShapes.Json.Value
import LinkedShapes.Ldp.Patch
import LinkedShapes.Ldp.Resource
import LinkedShapes.Ldp.Store
import LinkedShapes.Ldp.Target
import LinkedShapes.Main
import LinkedShapes.Markup.Content
import LinkedShapes.Markup.Piece
import LinkedShapes.Markup.Reference
import LinkedShapes.Number.Binary64
import LinkedShapes.Number.Decimal
import LinkedShapes.Number.Scaled
import LinkedShapes.Rdf.BlankLabel
import LinkedShapes.Rdf.Format
import LinkedShapes.Rdf.Graph
import LinkedShapes.Rdf.JsonLd.Context
import LinkedShapes.Rdf.JsonLd.Document
import LinkedShapes.Rdf.Lines
import LinkedShapes.Rdf.Notation3
import LinkedShapes.Rdf.Term
import LinkedShapes.Rdf.Text
import LinkedShapes.Rdf.Turtle.Document
import LinkedShapes.Rdf.Turtle.Token
import LinkedShapes.Rdf.Vocabulary
import LinkedShapes.Rdf.Xml.Document
import LinkedShapes.Rdf.Xml.Element
import LinkedShapes.Resolution.Context
import LinkedShapes.Resolution.Error
import LinkedShapes.Resolution.Field
import LinkedShapes.Resolution.Identifier
import LinkedShapes.Resolution.Minting
import LinkedShapes.Resolution.Mutation
import LinkedShapes.Resolution.Program
import LinkedShapes.Resolution.Query
import LinkedShapes.Resolution.Reachability
import LinkedShapes.Resolution.Seed
import LinkedShapes.Schema.Definition
import LinkedShapes.Schema.Generation
import LinkedShapes.Schema.Text
import LinkedShapes.Schema.TypeExpr
import LinkedShapes.Shape.Index
import LinkedShapes.Shape.Name
import LinkedShapes.Shape.Node
import LinkedShapes.Shape.Property
import LinkedShapes.Shape.Scalar
import LinkedShapes.Text.Blank
import LinkedShapes.Text.Case
import LinkedShapes.Text.Cased
import LinkedShapes.Text.LanguageTag
import LinkedShapes.Text.Marker
import LinkedShapes.Text.Order
import LinkedShapes.Proofs.Attempt
import LinkedShapes.Proofs.Actions
import LinkedShapes.Proofs.Failure
import LinkedShapes.Proofs.Store
import LinkedShapes.Proofs.WriteThrough
import LinkedShapes.Proofs.DeletedState
import LinkedShapes.Proofs.Minting
import LinkedShapes.Proofs.Collection
import LinkedShapes.Proofs.Creation
import LinkedShapes.Proofs.Instance
import LinkedShapes.Proofs.Calls
import LinkedShapes.Proofs.Confinement
import LinkedShapes.Proofs.Stated
import LinkedShapes.Proofs.Overwriting
import LinkedShapes.Proofs.Rereading
import LinkedShapes.Proofs.Freshness
import LinkedShapes.Proofs.TermText
import LinkedShapes.Proofs.Values
import LinkedShapes.Proofs.Agreement
import LinkedShapes.Proofs.BlankScope
import LinkedShapes.Proofs.Generation
import LinkedShapes.Proofs.Shapes
import LinkedShapes.Proofs.Causes
import LinkedShapes.Proofs.MutatorFields
import LinkedShapes.Proofs.Compilation
import LinkedShapes.Proofs.Histories
import LinkedShapes.Proofs.References
import LinkedShapes.Proofs.TypeNames
import LinkedShapes.Proofs.FieldNames
import LinkedShapes.Proofs.TripleOrder
import LinkedShapes.Proofs.Reading
import LinkedShapes.Proofs.Typing
import LinkedShapes.Proofs.Validation
import LinkedShapes.Proofs.UpdatePatch
import LinkedShapes.Proofs.Updating
import LinkedShapes.Proofs.AbsoluteIris
import LinkedShapes.Proofs.AbsoluteUrls
import LinkedShapes.Proofs.StoreOrder
import LinkedShapes.Proofs.Interleaving
import LinkedShapes.Proofs.ConcurrentCreation
import LinkedShapes.Proofs.SharedGraphs
import LinkedShapes.Proofs.Relinking
import LinkedShapes.Proofs.Removal
import LinkedShapes.Proofs.Required
import LinkedShapes.Proofs.Listing
import LinkedShapes.Proofs.Patching
import LinkedShapes.Proofs.ReadBack
import LinkedShapes.Proofs.StableIdentifiers
import LinkedShapes.Proofs.FieldKinds
import LinkedShapes.Proofs.EntityFields
import LinkedShapes.Proofs.Slugs
import LinkedShapes.Proofs.LegalNames
import LinkedShapes.Proofs.InputFields
import LinkedShapes.Proofs.PatchText
import LinkedShapes.Proofs.Containment
import LinkedShapes.Proofs.DatatypeRanges
import LinkedShapes.Proofs.ReadingLinks
import LinkedShapes.Proofs.ShapeLookup
import LinkedShapes.Proofs.Traversal
import LinkedShapes.Proofs.GraphHistories
