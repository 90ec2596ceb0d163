import LinkedShapes.Proofs.Compilation
import Mathlib.Data.List.Nodup

/-!
# The order of the triples of a shapes graph

A graph lists its triples in the order in which they came, and the shapes are read from that list by
look-ups that take the first match. Where names tell the shapes and the properties apart and each value
that is read is stated once, the order does not show: lists of the same triples have the same shapes, the
same class index and the same schema.

## Main statements

* `ShapeIndex.shapeAt_congr`, `ShapeIndex.shapesOf_congr`: the shapes of graphs with the same triples.
* `Definition.IsOf.of_same_shapes`: a schema depends on the shapes and the class index only.
* `Definition.IsOf.unique`: the shapes have one schema.
* `compiled_of_same_triples`: lists of the same triples are compiled to the same schema.
-/

namespace LinkedShapes

open Rdf Schema

/-! ### Graphs with the same triples -/

section Reading

variable {graph other : Graph} {node : Node} {label predicate cls : String}

/-- Graphs with the same triples look up the same, in two orders. -/
theorem Rdf.Graph.perm_find (same : ∀ triple, triple ∈ graph ↔ triple ∈ other)
    (pattern : Graph.Pattern) : (graph.find pattern).Perm (other.find pattern) := by
  refine (List.perm_ext_iff_of_nodup (graph.nodup_find _) (other.nodup_find _)).2 fun triple => ?_
  rw [Graph.mem_find, Graph.mem_find, same]

theorem Rdf.Graph.Single.congr (same : ∀ triple, triple ∈ graph ↔ triple ∈ other)
    (single : graph.Single node predicate) : other.Single node predicate :=
  fun object object' stated stated' => single object object' ((same _).2 stated) ((same _).2 stated')

/-- The predicates that a property shape is read from. -/
def PropertyShape.predicates : List String :=
  [Shacl.path, Shacl.name, Shacl.datatype, Shacl.valueClass, Shacl.minCount, Shacl.maxCount]

/-- What is read of a property node where each object is stated once. -/
theorem propertyAt?_congr (same : ∀ triple, triple ∈ graph ↔ triple ∈ other)
    (single : ∀ predicate ∈ PropertyShape.predicates, graph.Single (.blank label) predicate) :
    propertyAt? graph (.blank label) = propertyAt? other (.blank label) := by
  have read : ∀ predicate ∈ PropertyShape.predicates,
      PropertyShape.object? ((ShapeIndex.blankDetails graph).about (.blank label)) predicate =
        PropertyShape.object? ((ShapeIndex.blankDetails other).about (.blank label)) predicate := by
    intro predicate mem
    refine Option.ext fun object => ?_
    rw [object?_blankDetails_iff (single predicate mem),
      object?_blankDetails_iff ((single predicate mem).congr same), same]
  simp only [PropertyShape.predicates, List.forall_mem_cons] at read
  obtain ⟨path, name, datatype, valueClass, minCount, maxCount, -⟩ := read
  simp only [propertyAt?, PropertyShape.ofTriples?, path, name, datatype, valueClass, minCount,
    maxCount]

theorem NodeShape.perm_objects (same : ∀ triple, triple ∈ graph ↔ triple ∈ other) :
    (NodeShape.objects (graph.about node) node predicate).Perm
      (NodeShape.objects (other.about node) node predicate) :=
  ((Graph.perm_find same _).filter _).map _

/-- The target of a shape is the only class that is stated to be one. -/
theorem ShapeIndex.targetClass_shapeAt_iff
    (single : ∀ cls cls', ⟨node, Shacl.targetClass, .iri cls⟩ ∈ graph →
      ⟨node, Shacl.targetClass, .iri cls'⟩ ∈ graph → cls = cls') :
    (shapeAt graph node).targetClass = some cls ↔ ⟨node, Shacl.targetClass, .iri cls⟩ ∈ graph := by
  refine ⟨stated_of_targetClass, fun mem => ?_⟩
  obtain ⟨found, read⟩ := Option.isSome_iff_exists.1 (isSome_targetClass mem)
  rw [read, single _ _ (stated_of_targetClass read) mem]

end Reading

/-! ### Shapes of a graph -/

/-- Names tell the shapes of a graph and the properties of each shape apart, and what is read of a
property node, and the target of a shape, is stated once. -/
structure Unambiguous (graph : Graph) : Prop where
  /-- Different shapes have different names. -/
  shapes : ((ShapeIndex.shapeNodes graph).map NodeShape.nameOf).Nodup
  /-- Different properties of a shape have different names. -/
  properties : ∀ shape ∈ ShapeIndex.shapeNodes graph,
    ((ShapeIndex.shapeAt graph shape).properties.map PropertyShape.name).Nodup
  /-- A property node has at most one object of each predicate that it is read from. -/
  single : ∀ shape label, graph.HasProperty shape (.blank label) →
    ∀ predicate ∈ PropertyShape.predicates, graph.Single (.blank label) predicate
  /-- A shape has at most one class as its target. -/
  target : ∀ shape ∈ ShapeIndex.shapeNodes graph, ∀ cls other,
    ⟨shape, Shacl.targetClass, .iri cls⟩ ∈ graph →
    ⟨shape, Shacl.targetClass, .iri other⟩ ∈ graph → cls = other

namespace ShapeIndex

variable {graph other : Graph} {node : Node}

section Same

variable (same : ∀ triple, triple ∈ graph ↔ triple ∈ other) (clear : Unambiguous graph)

include same

theorem perm_shapeNodes : (shapeNodes graph).Perm (shapeNodes other) :=
  (Graph.perm_find same _).map _

include clear

/-- The properties of a shape in graphs with the same triples. -/
theorem properties_shapeAt_congr (mem : node ∈ shapeNodes graph) :
    (shapeAt graph node).properties = (shapeAt other node).properties := by
  let read (graph : Graph) (object : Term) : Option PropertyShape :=
    object.node?.bind (propertyAt? graph)
  have read_congr : ∀ object ∈ NodeShape.objects (graph.about node) node Shacl.property,
      read graph object = read other object := by
    intro object stated
    rw [NodeShape.mem_objects] at stated
    rcases object with (text | label) | literal
    · exact (propertyAt?_iri graph text).trans (propertyAt?_iri other text).symm
    · exact propertyAt?_congr same
        (clear.single node label ⟨Graph.mem_instances.1 mem, stated⟩)
    · rfl
  have perm : ((NodeShape.objects (graph.about node) node Shacl.property).filterMap
      (read graph)).Perm
      ((NodeShape.objects (other.about node) node Shacl.property).filterMap (read other)) := by
    rw [List.filterMap_congr read_congr]
    exact (NodeShape.perm_objects same).filterMap _
  refine Text.sortBy_eq_of_perm perm fun property there property' there' sameName => ?_
  exact List.inj_on_of_nodup_map (clear.properties node mem) (Text.mem_sortBy.2 there)
    (Text.mem_sortBy.2 there') sameName

/-- The shape of a node in graphs with the same triples. -/
theorem shapeAt_congr (mem : node ∈ shapeNodes graph) :
    shapeAt graph node = shapeAt other node := by
  have target : (shapeAt graph node).targetClass = (shapeAt other node).targetClass := by
    refine Option.ext fun cls => ?_
    rw [targetClass_shapeAt_iff (clear.target node mem), same, targetClass_shapeAt_iff]
    intro cls cls' stated stated'
    exact clear.target node mem cls cls' ((same _).2 stated) ((same _).2 stated')
  have properties := properties_shapeAt_congr same clear mem
  calc shapeAt graph node
      = ⟨node, NodeShape.nameOf node, (shapeAt graph node).targetClass,
          (shapeAt graph node).properties⟩ := rfl
    _ = shapeAt other node := by rw [target, properties]; rfl

/-- Graphs with the same triples state the same list of shapes. -/
theorem shapesOf_congr : shapesOf graph = shapesOf other := by
  have perm : ((shapeNodes graph).map (shapeAt graph)).Perm ((shapeNodes other).map (shapeAt other)) := by
    rw [List.map_congr_left fun node mem => shapeAt_congr same clear mem]
    exact (perm_shapeNodes same).map _
  refine Text.sortBy_eq_of_perm perm fun shape mem shape' mem' sameName => ?_
  obtain ⟨node, there, rfl⟩ := List.mem_map.1 mem
  obtain ⟨node', there', rfl⟩ := List.mem_map.1 mem'
  rw [List.inj_on_of_nodup_map clear.shapes there there' sameName]

end Same

end ShapeIndex

/-! ### The schema of the shapes -/

namespace Schema

section Same

variable {index other : ShapeIndex} {definition : Definition}
  (shapes : index.shapes = other.shapes) (byClass : index.byClass = other.byClass)

include byClass in
theorem propertyFields_congr (taken : List String) (properties : List PropertyShape) :
    propertyFields index taken properties = propertyFields other taken properties := by
  induction properties generalizing taken with
  | nil => rfl
  | cons property rest ih =>
    simp only [propertyFields, valueTypeName?, ShapeIndex.forClass?, byClass, ih]

include shapes byClass in
theorem entitiesOf_congr : entitiesOf index = entitiesOf other := by
  simp only [entitiesOf, entityType, ShapeIndex.named?, shapes, propertyFields_congr byClass]

include shapes in
theorem createInputOf_congr (entity : ObjectType) :
    createInputOf index entity = createInputOf other entity := by
  simp only [createInputOf, scalarInputs, ShapeIndex.named?, shapes]

include shapes in
theorem updateInputOf_congr (entity : ObjectType) :
    updateInputOf index entity = updateInputOf other entity := by
  simp only [updateInputOf, scalarInputs, ShapeIndex.named?, shapes]

include shapes byClass in
/-- The schema of some shapes does not depend on the graph that they were read from. -/
theorem Definition.IsOf.of_same_shapes (isOf : definition.IsOf index) : definition.IsOf other := by
  have entities := entitiesOf_congr shapes byClass
  have updates := updateInputOf_congr shapes
  have mutators : mutatorOf index = mutatorOf other := funext fun entity => by
    simp only [mutatorOf, mutatorFields, updateFields, updates]
  have needs : entityNeeds index = entityNeeds other := funext fun entity => by
    simp only [entityNeeds, updateNeeds, updates]
  refine ⟨?_, ?_, fun type mem => ?_⟩
  · rw [isOf.objects]
    simp only [queryOf, mutationOf, entities, mutators]
  · rw [isOf.inputNames]
    simp only [schemaNeeds, entities, needs]
  · obtain ⟨entity, there, made⟩ := isOf.inputs type mem
    refine ⟨entity, entities ▸ there, ?_⟩
    rwa [← createInputOf_congr shapes, ← updates]

end Same

section Unique

variable {index : ShapeIndex} {definition other : Definition}

/-- An input type of a schema is determined by its name. -/
theorem Definition.IsOf.input_eq (isOf : definition.IsOf index) (isOf' : other.IsOf index)
    {input input' : InputType} (mem : input ∈ definition.inputs) (mem' : input' ∈ other.inputs)
    (same : input.name = input'.name) : input = input' := by
  obtain ⟨entity, there, made⟩ := isOf.inputs input mem
  obtain ⟨entity', there', made'⟩ := isOf'.inputs input' mem'
  have entity_eq (sameName : entity.name = entity'.name) : entity = entity' := by
    have known := mem_entitiesOf.1 there
    rw [sameName, mem_entitiesOf.1 there'] at known
    exact (Option.some.inj known).symm
  rcases made with rfl | rfl <;> rcases made' with rfl | rfl
  · rw [entity_eq (createInputName_injective same)]
  · exact absurd same (createInputName_ne_updateInputName _ _)
  · exact absurd same.symm (createInputName_ne_updateInputName _ _)
  · rw [entity_eq (updateInputName_injective same)]

/-- The shapes of an index have one schema. -/
theorem Definition.IsOf.unique (isOf : definition.IsOf index) (isOf' : other.IsOf index) :
    definition = other := by
  have names : definition.inputs.map InputType.name = other.inputs.map InputType.name :=
    isOf.inputNames.trans isOf'.inputNames.symm
  have length : definition.inputs.length = other.inputs.length := by
    simpa using congrArg List.length names
  have inputs : definition.inputs = other.inputs := by
    refine List.ext_getElem length fun i h h' => ?_
    refine isOf.input_eq isOf' (List.getElem_mem h) (List.getElem_mem h') ?_
    have sameName := List.getElem_of_eq names (i := i) (by simpa using h)
    simpa using sameName
  have objects : definition.objects = other.objects := isOf.objects.trans isOf'.objects.symm
  cases definition
  cases other
  exact Definition.mk.injEq .. ▸ ⟨objects, inputs⟩

end Unique

end Schema

/-! ### Compiling in two orders -/

/-- Lists of the same triples have the same shapes, the same class index and the same schema. -/
theorem compiled_of_same_triples {triples others : List Triple}
    (clear : Unambiguous (Graph.ofList triples))
    (same : ∀ triple, triple ∈ triples ↔ triple ∈ others) :
    ∃ index other definition, ShapeIndex.ofTriples triples = .ok index ∧
      ShapeIndex.ofTriples others = .ok other ∧ index.shapes = other.shapes ∧
      index.byClass = other.byClass ∧ Definition.ofIndex index = .ok definition ∧
      Definition.ofIndex other = .ok definition := by
  have sameGraph (triple : Triple) : triple ∈ Graph.ofList triples ↔ triple ∈ Graph.ofList others := by
    rw [Graph.mem_ofList, Graph.mem_ofList, same]
  obtain ⟨index, definition, made, generated, isOf⟩ := ShapeIndex.exists_schema triples
  obtain ⟨other, definition', made', generated', isOf'⟩ := ShapeIndex.exists_schema others
  obtain ⟨graph, listed, indexed⟩ := ShapeIndex.eq_of_ofTriples made
  obtain ⟨graph', listed', indexed'⟩ := ShapeIndex.eq_of_ofTriples made'
  have shapes : index.shapes = other.shapes := by
    rw [listed, listed', graph, graph', ShapeIndex.shapesOf_congr sameGraph clear]
  have byClass : index.byClass = other.byClass := by rw [indexed, indexed', shapes]
  have definitions : definition = definition' := (isOf.of_same_shapes shapes byClass).unique isOf'
  exact ⟨index, other, definition, made, made', shapes, byClass, generated, definitions ▸ generated'⟩

/-- The triples of a shape of contacts, who have a name and a team, and a shape of teams. -/
def teamTriples : List Triple :=
  let contact : Node := .iri "http://example.org/shapes#ContactShape"
  let team : Node := .iri "http://example.org/shapes#TeamShape"
  [Graph.typing contact Shacl.nodeShape,
   ⟨contact, Shacl.targetClass, .iri "http://schema.org/Person"⟩,
   ⟨contact, Shacl.property, .blank "b0"⟩,
   ⟨.blank "b0", Shacl.path, .iri "http://schema.org/name"⟩,
   ⟨.blank "b0", Shacl.datatype, .iri Xsd.string⟩,
   ⟨contact, Shacl.property, .blank "b1"⟩,
   ⟨.blank "b1", Shacl.path, .iri "http://schema.org/memberOf"⟩,
   ⟨.blank "b1", Shacl.valueClass, .iri "http://schema.org/Organization"⟩,
   Graph.typing team Shacl.nodeShape,
   ⟨team, Shacl.targetClass, .iri "http://schema.org/Organization"⟩]

theorem unambiguous_teamTriples : Unambiguous (Graph.ofList teamTriples) := by
  have once : ∀ triple ∈ teamTriples, ∀ other ∈ teamTriples,
      triple.predicate ∈ Shacl.targetClass :: PropertyShape.predicates →
      triple.subject = other.subject → triple.predicate = other.predicate →
      triple.object = other.object := by
    decide +kernel
  refine ⟨by decide +kernel, fun shape mem => ?_, fun shape label _ predicate mem object object' => ?_,
    fun shape _ cls other stated stated' => ?_⟩
  · have names : ∀ shape ∈ ShapeIndex.shapeNodes (Graph.ofList teamTriples),
        (((NodeShape.objects ((Graph.ofList teamTriples).about shape) shape
          Shacl.property).filterMap fun object =>
            object.node?.bind (propertyAt? (Graph.ofList teamTriples))).map
          PropertyShape.name).Nodup := by
      decide +kernel
    exact ((Text.sortBy_perm _ _).map _).nodup_iff.2 (names shape mem)
  · intro stated stated'
    exact once _ (Graph.mem_ofList.1 stated) _ (Graph.mem_ofList.1 stated')
      (List.mem_cons_of_mem _ mem) rfl rfl
  · have same := once _ (Graph.mem_ofList.1 stated) _ (Graph.mem_ofList.1 stated')
      List.mem_cons_self rfl rfl
    simpa using same

/-- The triples of the contacts and the teams are compiled backwards as they are forwards. -/
theorem compiled_of_same_triples_reverse :
    Unambiguous (Graph.ofList teamTriples) ∧
      ∃ index other definition, ShapeIndex.ofTriples teamTriples = .ok index ∧
        ShapeIndex.ofTriples teamTriples.reverse = .ok other ∧ index.shapes = other.shapes ∧
        index.byClass = other.byClass ∧ Definition.ofIndex index = .ok definition ∧
        Definition.ofIndex other = .ok definition ∧
        ShapeIndex.shapeNodes index.graph ≠ ShapeIndex.shapeNodes other.graph := by
  obtain ⟨index, other, definition, made, made', shapes, byClass, generated, generated'⟩ :=
    compiled_of_same_triples unambiguous_teamTriples fun _ => List.mem_reverse.symm
  refine ⟨unambiguous_teamTriples, index, other, definition, made, made', shapes, byClass, generated,
    generated', ?_⟩
  rw [(ShapeIndex.eq_of_ofTriples made).1, (ShapeIndex.eq_of_ofTriples made').1]
  decide +kernel

end LinkedShapes
