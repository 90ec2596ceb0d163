import LinkedShapes.Rdf.Turtle.Document
import LinkedShapes.Shape.Node

/-!
# The index of a shapes graph

All the shapes that a graph states, sorted by name, with the class index that finds the shape of the
instances of a class: the first one that has the class as its target.
-/

namespace LinkedShapes

open Rdf

/-- The shapes of a graph. -/
structure ShapeIndex where
  /-- The graph that the shapes are stated in. -/
  graph : Graph
  /-- The triples about blank nodes. -/
  details : Graph
  /-- The shapes, sorted by name. -/
  shapes : List NodeShape
  /-- The shape of each class that is the target of one. -/
  byClass : List (String × NodeShape)
  deriving Inhabited

namespace ShapeIndex

/-- The class index with a shape added; a class keeps its first shape. -/
def indexShape (index : List (String × NodeShape)) (shape : NodeShape) :
    List (String × NodeShape) :=
  match shape.targetClass with
  | none => index
  | some cls => if index.any (·.1 = cls) then index else index ++ [(cls, shape)]

/-- The triples about blank nodes. -/
def blankDetails (graph : Graph) : Graph :=
  Graph.ofList (graph.triples.filter fun t =>
    match t.subject with
    | .blank _ => true
    | .iri _ => false)

/-- The nodes that are stated to be node shapes. -/
def shapeNodes (graph : Graph) : List Node :=
  graph.instances Shacl.nodeShape

/-- The shapes that a list of triples states. -/
def ofTriples (triples : List Triple) : Except ShapeError ShapeIndex := do
  let graph := Graph.ofList triples
  let details := blankDetails graph
  let shapes ← (shapeNodes graph).mapM fun node => NodeShape.ofTriples (graph.about node) details
  let shapes := Text.sortBy NodeShape.name shapes
  return ⟨graph, details, shapes, shapes.foldl indexShape []⟩

/-- The shapes that a Turtle text states. -/
def ofTurtle (base : Option String) (text : String) : Except ShapeError ShapeIndex :=
  if base.any (!Iri.isAbsolute ·) then .error .invalidBase
  else
    match Turtle.readDocument? false base 0 text with
    | none => .error .malformedText
    | some (triples, _) => ofTriples triples

/-- The first shape of a name. -/
def named? (index : ShapeIndex) (name : String) : Option NodeShape :=
  index.shapes.find? (·.name = name)

/-- The shape of the instances of a class. -/
def forClass? (index : ShapeIndex) (cls : String) : Option NodeShape :=
  (index.byClass.find? (·.1 = cls)).map Prod.snd

end ShapeIndex

end LinkedShapes
