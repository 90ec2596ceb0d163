import LinkedShapes.Rdf.Vocabulary

/-!
# RDF terms and triples

The data of an RDF graph: nodes (IRIs and blank nodes), literals, and triples of them, together
with their N-Triples text. IRIs are kept as text and are not validated here: a graph may hold any
text in the place of an IRI, and validity is asked for where an IRI is read from an outside source.

A literal always has a datatype. A simple literal is one of datatype `xsd:string`, so that a typed
literal with this datatype and a simple literal are the same value, and a literal with a language
tag is one of datatype `rdf:langString` that also has a tag.

## Main statements

* `Literal.typed_string`: typing a value as `xsd:string` gives the simple literal.
-/

namespace LinkedShapes.Rdf

/-- A node of a graph: what can be the subject of a triple. -/
inductive Node where
  /-- The resource named by an IRI. -/
  | iri (text : String)
  /-- A resource without a name, known by a label inside its document. -/
  | blank (label : String)
  deriving DecidableEq, Inhabited

/-- A literal: a lexical value, its datatype, and the language of a `rdf:langString`. -/
structure Literal where
  /-- The lexical value. -/
  value : String
  /-- The IRI of the datatype. -/
  datatype : String
  /-- The language tag, if there is one. -/
  language : Option String
  /-- Only a `rdf:langString` has a language tag. -/
  datatype_of_tagged : ∀ tag, language = some tag → datatype = RdfSyntax.langString
  deriving DecidableEq

namespace Literal

/-- The literal of datatype `xsd:string` with the given value. -/
def simple (value : String) : Literal := ⟨value, Xsd.string, none, nofun⟩

instance : Inhabited Literal := ⟨simple ""⟩

/-- The literal with the given value and datatype. -/
def typed (value datatype : String) : Literal := ⟨value, datatype, none, nofun⟩

/-- The literal with the given value and language tag. -/
def tagged (value language : String) : Literal :=
  ⟨value, RdfSyntax.langString, some language, fun _ _ => rfl⟩

/-- A literal typed as `xsd:string` is the simple literal. -/
theorem typed_string (value : String) : typed value Xsd.string = simple value := rfl

end Literal

/-- What can be the object of a triple: a node or a literal. -/
inductive Term where
  /-- A node. -/
  | node (node : Node)
  /-- A literal. -/
  | literal (literal : Literal)
  deriving DecidableEq, Inhabited

namespace Term

/-- The term that is the resource named by an IRI. -/
abbrev iri (text : String) : Term := .node (.iri text)

/-- The term that is the blank node of a label. -/
abbrev blank (label : String) : Term := .node (.blank label)

/-- The IRI, if the term is one. -/
def iri? : Term → Option String
  | .node (.iri text) => some text
  | _ => none

/-- The node, if the term is one. -/
def node? : Term → Option Node
  | .node n => some n
  | .literal _ => none

/-- The literal, if the term is one. -/
def literal? : Term → Option Literal
  | .literal l => some l
  | .node _ => none

@[simp]
theorem iri?_eq_some_iff {term : Term} {text : String} :
    term.iri? = some text ↔ term = .iri text := by
  rcases term with (_ | _) | _ <;> simp [iri?, iri]

@[simp]
theorem node?_eq_some_iff {term : Term} {node : Node} :
    term.node? = some node ↔ term = .node node := by
  cases term <;> simp [node?]

end Term

/-- A statement: the subject has the object as a value of the predicate. -/
structure Triple where
  /-- What the statement is about. -/
  subject : Node
  /-- The IRI of the property. -/
  predicate : String
  /-- The value. -/
  object : Term
  deriving DecidableEq, Inhabited

end LinkedShapes.Rdf
