import LinkedShapes.Proofs.Generation
import LinkedShapes.Proofs.Stated

/-!
# What the index of a shapes graph has

Each node that a graph states to be a node shape has exactly one such triple about it, so that its shape
can always be read, and so can the whole index. The class index finds a shape for each class that some
shape has as its target. All names are sanitised.

## Main statements

* `ShapeIndex.ofTriples_eq`: the index of a graph is always made.
* `ShapeIndex.forClass?_eq_find?`: the class index finds the first shape that has a class as its target.
* `ShapeIndex.forClass?_isSome_iff`: which classes have a shape.
* `ShapeIndex.exists_schema`: the schema of a graph is always made.
-/

namespace LinkedShapes

open Rdf

/-! ### Shapes -/

/-- Exactly one triple about a node shape states that it is one. -/
theorem NodeShape.ofTriples_about {graph : Graph} {node : Node} (details : Graph)
    (typed : Graph.typing node Shacl.nodeShape ∈ graph) :
    ofTriples (graph.about node) details = .ok (ofNode node (graph.about node) details) := by
  have declared : (graph.about node).filter declares =
      graph.find ⟨some node, some RdfSyntax.type, some (.iri Shacl.nodeShape)⟩ := by
    rw [Graph.about_eq_filter, List.filter_filter, Graph.find_eq_filter]
    refine List.filter_congr fun t _ => ?_
    by_cases same : t.subject = node <;> simp [declares, Graph.Pattern.matchesTriple, same]
  have single : graph.find ⟨some node, some RdfSyntax.type, some (.iri Shacl.nodeShape)⟩ =
      [Graph.typing node Shacl.nodeShape] := Graph.find_eq_singleton_iff.2 typed
  rw [ofTriples, declared, single]
  rfl

namespace ShapeIndex

variable {triples : List Triple} {index : ShapeIndex} {cls : String} {shape : NodeShape}

/-- The shape of a node of a graph. -/
def shapeAt (graph : Graph) (node : Node) : NodeShape :=
  NodeShape.ofNode node (graph.about node) (blankDetails graph)

/-- The shapes that a graph states. -/
def shapesOf (graph : Graph) : List NodeShape :=
  Text.sortBy NodeShape.name ((shapeNodes graph).map (shapeAt graph))

theorem mem_shapesOf {graph : Graph} :
    shape ∈ shapesOf graph ↔
      ∃ node, Graph.typing node Shacl.nodeShape ∈ graph ∧ shapeAt graph node = shape := by
  rw [shapesOf, Text.mem_sortBy, List.mem_map]
  simp only [shapeNodes, Graph.mem_instances]

/-- The index of the shapes of a graph is always made. -/
theorem ofTriples_eq (triples : List Triple) :
    ofTriples triples = .ok
      { graph := Graph.ofList triples
        details := blankDetails (Graph.ofList triples)
        shapes := shapesOf (Graph.ofList triples)
        byClass := (shapesOf (Graph.ofList triples)).foldl indexShape [] } := by
  have read : (shapeNodes (Graph.ofList triples)).mapM (fun node =>
      NodeShape.ofTriples ((Graph.ofList triples).about node) (blankDetails (Graph.ofList triples))) =
      .ok ((shapeNodes (Graph.ofList triples)).map (shapeAt (Graph.ofList triples))) := by
    refine Resolution.mapM_eq_ok_iff.2 ?_
    rw [List.map_map]
    refine List.map_congr_left fun node mem => ?_
    exact NodeShape.ofTriples_about _ (Graph.mem_instances.1 mem)
  rw [ofTriples, read]
  rfl

/-! ### Classes -/

/-- A shape that is indexed is found under its target, unless the class has a shape already. -/
theorem find?_indexShape (index : List (String × NodeShape)) (shape : NodeShape) (cls : String) :
    ((indexShape index shape).find? (·.1 = cls)).map Prod.snd =
      ((index.find? (·.1 = cls)).map Prod.snd).or
        (if shape.targetClass = some cls then some shape else none) := by
  unfold indexShape
  cases shape.targetClass with
  | none => simp
  | some own =>
    dsimp only
    by_cases known : index.any (·.1 = own) = true
    · by_cases same : own = cls
      · have there : (index.find? (·.1 = cls)).isSome = true := by
          rw [List.find?_isSome, ← same]
          exact List.any_eq_true.1 known
        obtain ⟨entry, found⟩ := Option.isSome_iff_exists.1 there
        simp [known, found]
      · simp [known, same]
    · rw [if_neg known, List.find?_append, Option.map_or]
      by_cases same : own = cls <;> simp [same]

/-- The class index finds the shape that was there for a class, or else the first of the shapes that
have the class as their target. -/
theorem find?_foldl_indexShape (shapes : List NodeShape) (start : List (String × NodeShape))
    (cls : String) :
    ((shapes.foldl indexShape start).find? (·.1 = cls)).map Prod.snd =
      ((start.find? (·.1 = cls)).map Prod.snd).or
        (shapes.find? (·.targetClass = some cls)) := by
  induction shapes generalizing start with
  | nil => simp
  | cons first rest ih =>
    rw [List.foldl_cons, ih, find?_indexShape, Option.or_assoc]
    by_cases target : first.targetClass = some cls <;> simp [target]

/-- The index is that of a list of triples. -/
theorem eq_of_ofTriples (made : ofTriples triples = .ok index) :
    index.graph = Graph.ofList triples ∧ index.shapes = shapesOf index.graph ∧
      index.byClass = index.shapes.foldl indexShape [] := by
  rw [ofTriples_eq] at made
  obtain rfl := Except.ok.inj made
  exact ⟨rfl, rfl, rfl⟩

/-- The shape of a class is the first one that has the class as its target. -/
theorem forClass?_eq_find? (made : ofTriples triples = .ok index) (cls : String) :
    index.forClass? cls = index.shapes.find? (·.targetClass = some cls) := by
  rw [forClass?, (eq_of_ofTriples made).2.2, find?_foldl_indexShape]
  simp

/-- The shape of a class is one of the shapes, and has the class as its target. -/
theorem mem_of_forClass? (made : ofTriples triples = .ok index)
    (found : index.forClass? cls = some shape) :
    shape ∈ index.shapes ∧ shape.targetClass = some cls := by
  rw [forClass?_eq_find? made] at found
  exact ⟨List.mem_of_find?_eq_some found, by simpa using List.find?_some found⟩

/-- A class has a shape if and only if it is the target of one. -/
theorem forClass?_isSome_iff (made : ofTriples triples = .ok index) :
    (index.forClass? cls).isSome ↔ ∃ shape ∈ index.shapes, shape.targetClass = some cls := by
  rw [forClass?_eq_find? made, List.find?_isSome]
  simp

/-- The index of a graph is closed. -/
theorem closed_of_ofTriples (made : ofTriples triples = .ok index) : Schema.Closed index :=
  fun _ _ found => (mem_of_forClass? made found).1

/-- The schema of a graph is always made. -/
theorem exists_schema (triples : List Triple) :
    ∃ index definition, ofTriples triples = .ok index ∧
      Schema.Definition.ofIndex index = .ok definition ∧ definition.IsOf index := by
  have made := ofTriples_eq triples
  obtain ⟨definition, generated, isOf⟩ := Schema.Definition.exists_ofIndex (closed_of_ofTriples made)
  exact ⟨_, definition, made, generated, isOf⟩

/-- A schema that was made of a graph is that of its shapes. -/
theorem isOf_of_ofIndex {definition : Schema.Definition} (made : ofTriples triples = .ok index)
    (generated : Schema.Definition.ofIndex index = .ok definition) : definition.IsOf index := by
  obtain ⟨index', definition', made', generated', isOf⟩ := exists_schema triples
  obtain rfl := Except.ok.inj (made.symm.trans made')
  obtain rfl := Except.ok.inj (generated.symm.trans generated')
  exact isOf

/-- The index of the shapes that some triples state. -/
def indexOf (triples : List Triple) : ShapeIndex := (ofTriples triples).toOption.getD default

theorem ofTriples_eq_indexOf (triples : List Triple) : ofTriples triples = .ok (indexOf triples) := by
  rw [indexOf, ofTriples_eq]
  rfl

/-- The schema of the shapes that some triples state. -/
def schemaOf (triples : List Triple) : Schema.Definition :=
  (Schema.Definition.ofIndex (indexOf triples)).toOption.getD default

theorem ofIndex_eq_schemaOf (triples : List Triple) :
    Schema.Definition.ofIndex (indexOf triples) = .ok (schemaOf triples) := by
  obtain ⟨index, definition, made, generated, -⟩ := exists_schema triples
  obtain rfl := Except.ok.inj ((ofTriples_eq_indexOf triples).symm.trans made)
  rw [schemaOf, generated]
  rfl

/-! ### Names -/

/-- The text is a name of the query language: its characters may all stand in a name, and there is
one. -/
def IsName (name : String) : Prop :=
  name.toList ≠ [] ∧ ∀ c ∈ name.toList, Shape.isNameChar c = true

theorem isName_sanitize (text : List Char) : IsName (String.ofList (Shape.sanitize text)) := by
  refine ⟨?_, fun c mem => ?_⟩
  · rw [String.toList_ofList]
    exact Shape.sanitize_ne_nil text
  · rw [String.toList_ofList] at mem
    exact Shape.isNameChar_of_mem_sanitize mem

/-- The name of a property of a shape is sanitised. -/
theorem exists_sanitize_eq (made : ofTriples triples = .ok index) (mem : shape ∈ index.shapes)
    {property : PropertyShape} (there : property ∈ shape.properties) :
    ∃ text, property.name = String.ofList (Shape.sanitize text) := by
  rw [(eq_of_ofTriples made).2.1] at mem
  obtain ⟨node, -, rfl⟩ := mem_shapesOf.1 mem
  obtain ⟨object, -, read⟩ := List.mem_filterMap.1 (Text.mem_sortBy.1 there)
  obtain ⟨node, -, read⟩ := Option.bind_eq_some_iff.1 read
  obtain ⟨path, -, rfl⟩ := Option.map_eq_some_iff.1 read
  unfold PropertyShape.nameOf
  split <;> exact ⟨_, rfl⟩

/-- The property of a shape has a name. -/
theorem isName_of_mem_properties (made : ofTriples triples = .ok index)
    (mem : shape ∈ index.shapes) {property : PropertyShape} (there : property ∈ shape.properties) :
    IsName property.name := by
  obtain ⟨text, same⟩ := exists_sanitize_eq made mem there
  rw [same]
  exact isName_sanitize text

theorem name_shapeAt (graph : Graph) (node : Node) :
    (shapeAt graph node).name = NodeShape.nameOf node := rfl

/-- The name of a shape is a capitalised name. -/
theorem exists_name_eq (made : ofTriples triples = .ok index) (mem : shape ∈ index.shapes) :
    ∃ text, shape.name = Text.capitalize (String.ofList (Shape.sanitize text)) := by
  have derived (iri : String) :
      ∃ text, Shape.shapeName iri = Text.capitalize (String.ofList (Shape.sanitize text)) := by
    unfold Shape.shapeName
    exact ⟨_, rfl⟩
  rw [(eq_of_ofTriples made).2.1] at mem
  obtain ⟨node, -, rfl⟩ := mem_shapesOf.1 mem
  rw [name_shapeAt]
  cases node with
  | iri text => exact derived text
  | blank label => exact derived (Node.blank label).text

/-- The shapes are those of the nodes that are stated to be node shapes. -/
theorem perm_map_id (made : ofTriples triples = .ok index) :
    (index.shapes.map NodeShape.id).Perm (shapeNodes index.graph) := by
  rw [(eq_of_ofTriples made).2.1]
  refine ((Text.sortBy_perm _ _).map _).trans (List.Perm.of_eq ?_)
  rw [List.map_map]
  exact List.map_id _

/-- No node has two shapes. -/
theorem nodup_ids (made : ofTriples triples = .ok index) : (index.shapes.map NodeShape.id).Nodup :=
  (perm_map_id made).nodup_iff.2 (Graph.nodup_instances _ _)

/-- The nodes that have a shape are those that are stated to be node shapes. -/
theorem mem_ids_iff (made : ofTriples triples = .ok index) (node : Node) :
    node ∈ index.shapes.map NodeShape.id ↔ Graph.typing node Shacl.nodeShape ∈ triples := by
  rw [(perm_map_id made).mem_iff, shapeNodes, Graph.mem_instances, (eq_of_ofTriples made).1,
    Graph.mem_ofList]

end ShapeIndex

end LinkedShapes
