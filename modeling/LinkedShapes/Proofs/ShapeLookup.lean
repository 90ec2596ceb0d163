import LinkedShapes.Proofs.Compilation

/-!
# Finding the shape of a node and of a class

The index of any list of triples is made: the triples about a node that is stated to be a node shape
state this once, however often the list repeats it, so that its shape can be read. Each such node has
one shape in the index, the shapes are in the order of their names, and the shape of a class is the
first one of this order that has the class as its target, also where several shapes have one name or
one target.

## Main statements

* `ShapeIndex.exists_indexes`: the index of any triples is made, and what can be found in it.
-/

namespace LinkedShapes

open Rdf

namespace ShapeIndex

variable {triples : List Triple} {index : ShapeIndex} {shape : NodeShape} {cls : String}

/-- The shape of a class, as the first one in a list that has the class as its target. -/
def FirstFor (shapes : List NodeShape) (cls : String) (shape : NodeShape) : Prop :=
  shape.targetClass = some cls ∧ ∃ before after, shapes = before ++ shape :: after ∧
    ∀ other ∈ before, other.targetClass ≠ some cls

/-- The index finds the shapes that some triples state. -/
structure Indexes (index : ShapeIndex) (triples : List Triple) : Prop where
  /-- The nodes that have a shape are those that are stated to be node shapes. -/
  mem_nodes_iff : ∀ node,
    node ∈ index.shapes.map NodeShape.id ↔ Graph.typing node Shacl.nodeShape ∈ triples
  /-- No node has two shapes. -/
  nodup_nodes : (index.shapes.map NodeShape.id).Nodup
  /-- A shape is the one that the triples about its node state. -/
  read : ∀ shape ∈ index.shapes,
    NodeShape.ofTriples ((Graph.ofList triples).about shape.id) (blankDetails (Graph.ofList triples)) =
      .ok shape
  /-- The target of a shape is a class that is stated to be its target. -/
  target : ∀ shape ∈ index.shapes, ∀ cls, shape.targetClass = some cls →
    ⟨shape.id, Shacl.targetClass, .iri cls⟩ ∈ triples
  /-- A shape has no target only if no class is stated to be one. -/
  no_target : ∀ shape ∈ index.shapes, shape.targetClass = none →
    ∀ cls, ⟨shape.id, Shacl.targetClass, .iri cls⟩ ∉ triples
  /-- The shapes are in the order of their names. -/
  sorted : index.shapes.Pairwise (·.name ≤ ·.name)
  /-- The shape of a class is the first one that has the class as its target. -/
  forClass?_eq_some_iff : ∀ cls shape,
    index.forClass? cls = some shape ↔ FirstFor index.shapes cls shape
  /-- A class has no shape if and only if no shape has it as its target. -/
  forClass?_eq_none_iff : ∀ cls,
    index.forClass? cls = none ↔ ∀ shape ∈ index.shapes, shape.targetClass ≠ some cls

/-- A shape of an index is that of a node that is stated to be a node shape. -/
theorem exists_node_of_mem (made : ofTriples triples = .ok index) (mem : shape ∈ index.shapes) :
    ∃ node, Graph.typing node Shacl.nodeShape ∈ Graph.ofList triples ∧
      shapeAt (Graph.ofList triples) node = shape := by
  obtain ⟨graph, shapes, -⟩ := eq_of_ofTriples made
  rw [shapes, graph] at mem
  exact mem_shapesOf.1 mem

theorem sorted_shapes (made : ofTriples triples = .ok index) :
    index.shapes.Pairwise (·.name ≤ ·.name) := by
  rw [(eq_of_ofTriples made).2.1]
  exact Text.sorted_sortBy _ _

theorem forClass?_eq_some_iff (made : ofTriples triples = .ok index) :
    index.forClass? cls = some shape ↔ FirstFor index.shapes cls shape := by
  rw [forClass?_eq_find? made, List.find?_eq_some_iff_append, FirstFor]
  simp

theorem forClass?_eq_none_iff (made : ofTriples triples = .ok index) :
    index.forClass? cls = none ↔ ∀ shape ∈ index.shapes, shape.targetClass ≠ some cls := by
  rw [forClass?_eq_find? made, List.find?_eq_none]
  simp

/-- The index of any triples is made, and it finds the shapes that they state. -/
theorem exists_indexes (triples : List Triple) :
    ∃ index, ofTriples triples = .ok index ∧ index.Indexes triples := by
  obtain ⟨index, made⟩ : ∃ index, ofTriples triples = .ok index := ⟨_, ofTriples_eq triples⟩
  refine ⟨index, made, ?_⟩
  constructor
  case mem_nodes_iff => exact mem_ids_iff made
  case nodup_nodes => exact nodup_ids made
  case read =>
    intro shape mem
    obtain ⟨node, typed, rfl⟩ := exists_node_of_mem made mem
    exact NodeShape.ofTriples_about _ typed
  case target =>
    intro shape mem cls read
    obtain ⟨node, -, rfl⟩ := exists_node_of_mem made mem
    exact Graph.mem_ofList.1 (stated_of_targetClass read)
  case no_target =>
    intro shape mem missing cls stated
    obtain ⟨node, -, rfl⟩ := exists_node_of_mem made mem
    have there : (shapeAt (Graph.ofList triples) node).targetClass.isSome :=
      isSome_targetClass (Graph.mem_ofList.2 stated)
    rw [missing] at there
    cases there
  case sorted => exact sorted_shapes made
  case forClass?_eq_some_iff => exact fun cls shape => forClass?_eq_some_iff made
  case forClass?_eq_none_iff => exact fun cls => forClass?_eq_none_iff made

end ShapeIndex

end LinkedShapes
