import LinkedShapes.Rdf.Graph
import LinkedShapes.Rdf.Text
import LinkedShapes.Shape.Property

/-!
# Node shapes

A node shape describes the instances of a class by their properties. It is read from the triples
about its node; the nodes of its properties are looked up in a graph of their own.

## Main statements

* `ofTriples_missing`, `ofTriples_ambiguous`: exactly one node shape must be stated.
-/

namespace LinkedShapes

open Rdf

/-- Why shapes could not be read. -/
inductive ShapeError where
  /-- No node shape is stated. -/
  | missingNodeShape
  /-- More than one node shape is stated. -/
  | ambiguousNodeShape (count : Nat)
  /-- The text does not follow its format. -/
  | malformedText
  /-- The base is not an absolute IRI. -/
  | invalidBase
  deriving DecidableEq, Inhabited

/-- What is said of an error in the reading of shapes; the details of a text are not repeated. -/
def ShapeError.message : ShapeError → String
  | .missingNodeShape => "No sh:NodeShape subject found in shape declaration"
  | .ambiguousNodeShape count =>
    "Shape declaration has " ++ Number.natText count ++
      " sh:NodeShape subjects, expected exactly one"
  | .malformedText => "The shape declarations are malformed"
  | .invalidBase => "The base IRI is invalid"

/-- A description of the instances of a class. -/
structure NodeShape where
  /-- The node that the shape is stated about. -/
  id : Node
  /-- The name of the type that the shape describes. -/
  name : String
  /-- The class of the instances, if it is stated. -/
  targetClass : Option String
  /-- The properties of the instances, sorted by name. -/
  properties : List PropertyShape
  deriving DecidableEq, Inhabited

namespace NodeShape

/-- The triple that states a node shape. -/
def declares (triple : Triple) : Bool :=
  triple.predicate = RdfSyntax.type && triple.object = .iri Shacl.nodeShape

/-- The objects that triples give to a subject under a predicate. -/
def objects (triples : List Triple) (subject : Node) (predicate : String) : List Term :=
  (triples.filter fun t => t.subject = subject && t.predicate = predicate).map Triple.object

/-- The type name of the shape stated about a node. -/
def nameOf : Node → String
  | .iri text => Shape.shapeName text
  | node => Shape.shapeName node.text

/-- The shape of a node: `triples` are about the shape, `details` about the nodes of its
properties. A property without a path is left out. -/
def ofNode (id : Node) (triples : List Triple) (details : Graph) : NodeShape :=
  let property? (object : Term) : Option PropertyShape :=
    object.node?.bind fun node => PropertyShape.ofTriples? (details.about node)
  { id := id
    name := nameOf id
    targetClass := (objects triples id Shacl.targetClass).findSome? Term.iri?
    properties := Text.sortBy PropertyShape.name
      ((objects triples id Shacl.property).filterMap property?) }

/-- The one shape that is stated by some triples. -/
def ofTriples (triples : List Triple) (details : Graph) : Except ShapeError NodeShape :=
  match (triples.filter declares).map Triple.subject with
  | [] => .error .missingNodeShape
  | [id] => .ok (ofNode id triples details)
  | ids => .error (.ambiguousNodeShape ids.length)

theorem ofTriples_missing {triples : List Triple} {details : Graph}
    (h : ∀ t ∈ triples, declares t = false) :
    ofTriples triples details = .error .missingNodeShape := by
  have : triples.filter declares = [] := by
    simpa [List.filter_eq_nil_iff] using h
  simp [ofTriples, this]

theorem ofTriples_ambiguous {triples : List Triple} {details : Graph}
    (h : 1 < (triples.filter declares).length) :
    ofTriples triples details =
      .error (.ambiguousNodeShape (triples.filter declares).length) := by
  rcases hf : triples.filter declares with _ | ⟨a, _ | ⟨b, rest⟩⟩
  · simp [hf] at h
  · simp [hf] at h
  · simp [ofTriples, hf]

end NodeShape

end LinkedShapes
