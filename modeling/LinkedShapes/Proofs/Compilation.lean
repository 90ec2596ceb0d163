import LinkedShapes.Proofs.Shapes

/-!
# From property nodes to fields

A node shape is compiled to an entity type. Each property node of the shape that states an IRI path and
values of a supported kind becomes a field of its derived name and path, and there are no other fields
but the identifier. This holds of the property nodes that are blank: the triples about a node with an
IRI are not looked at, so that such a node never becomes a field.

## Main statements

* `exists_propertyAt?_iff`, `valueTypeName?_isSome_iff`: what is read from the triples about a property
  node.
* `mem_propertyFields`: a usable property whose name is its own becomes a field.
* `entity_compiled`: the entity type of each node shape of a well stated graph.
-/

namespace LinkedShapes

open Rdf Schema

/-! ### What a graph states of properties -/

/-- A graph gives a node at most one object of a predicate. -/
def Rdf.Graph.Single (graph : Graph) (node : Node) (predicate : String) : Prop :=
  ∀ object other, ⟨node, predicate, object⟩ ∈ graph → ⟨node, predicate, other⟩ ∈ graph →
    object = other

/-- A node is a property node of a shape. -/
def Rdf.Graph.HasProperty (graph : Graph) (shape node : Node) : Prop :=
  Graph.typing shape Shacl.nodeShape ∈ graph ∧ ⟨shape, Shacl.property, .node node⟩ ∈ graph

/-- A node states a property: its path is an IRI, and its name is derived from the literal name that is
given, or else from the path. -/
structure StatesProperty (graph : Graph) (node : Node) (name path : String) : Prop where
  /-- The path. -/
  stated : ⟨node, Shacl.path, .iri path⟩ ∈ graph
  /-- The name. -/
  named : (∃ given : Literal, ⟨node, Shacl.name, .literal given⟩ ∈ graph ∧
      name = Shape.sanitizedName given.value) ∨
    (∀ given : Literal, ⟨node, Shacl.name, .literal given⟩ ∉ graph) ∧
      name = String.ofList (Shape.sanitize (Shape.localName path.toList))

/-- The values of a property node are supported: they are of a supported datatype, or instances of a
class that is the target of a shape. -/
def Supported (index : ShapeIndex) (node : Node) : Prop :=
  (∃ datatype, ⟨node, Shacl.datatype, .iri datatype⟩ ∈ index.graph ∧
      (Scalar.ofDatatype? datatype).isSome) ∨
    ∃ cls, ⟨node, Shacl.valueClass, .iri cls⟩ ∈ index.graph ∧
      ∃ shape ∈ index.shapes, shape.targetClass = some cls

/-- Names tell the shapes of a graph and the properties of each shape apart, and what is read of a
property node is stated once. -/
structure WellStated (graph : Graph) : Prop where
  /-- Different shapes have different names. -/
  shapes : ∀ shape other, Graph.typing shape Shacl.nodeShape ∈ graph →
    Graph.typing other Shacl.nodeShape ∈ graph → NodeShape.nameOf shape = NodeShape.nameOf other →
    shape = other
  /-- A property node has at most one object of each predicate that it is read from. -/
  single : ∀ shape node, graph.HasProperty shape node →
    ∀ predicate ∈ [Shacl.path, Shacl.name, Shacl.datatype, Shacl.valueClass],
      graph.Single node predicate
  /-- Different properties of a shape have different names. -/
  names : ∀ shape node other name path path', graph.HasProperty shape node →
    graph.HasProperty shape other → StatesProperty graph node name path →
    StatesProperty graph other name path' → node = other
  /-- No property is named as the identifier is. -/
  identifier : ∀ shape node path, graph.HasProperty shape node →
    ¬ StatesProperty graph node identifierField path

/-! ### Reading a property node -/

section Reading

variable {graph : Graph} {node : Node} {label predicate name path : String}

theorem ShapeIndex.mem_about_blankDetails {triple : Triple} :
    triple ∈ (blankDetails graph).about (.blank label) ↔
      triple ∈ graph ∧ triple.subject = .blank label := by
  rw [Graph.mem_about, blankDetails, Graph.mem_ofList, List.mem_filter, ← Graph.mem_def]
  constructor
  · rintro ⟨⟨stated, -⟩, same⟩
    exact ⟨stated, same⟩
  · rintro ⟨stated, same⟩
    exact ⟨⟨stated, by rw [same]⟩, same⟩

/-- Nothing is known of a node with an IRI. -/
theorem ShapeIndex.about_blankDetails_iri (graph : Graph) (text : String) :
    (blankDetails graph).about (.iri text) = [] := by
  refine List.eq_nil_iff_forall_not_mem.2 fun triple mem => ?_
  obtain ⟨stated, same⟩ := Graph.mem_about.1 mem
  have blank := (List.mem_filter.1 (Graph.mem_ofList.1 stated)).2
  rw [same] at blank
  cases blank

/-- The object that is read is the only one that is stated. -/
theorem object?_blankDetails_iff (single : graph.Single (.blank label) predicate) {object : Term} :
    PropertyShape.object? ((ShapeIndex.blankDetails graph).about (.blank label)) predicate =
      some object ↔ ⟨.blank label, predicate, object⟩ ∈ graph := by
  have stated {found : Term}
      (read : PropertyShape.object? ((ShapeIndex.blankDetails graph).about (.blank label)) predicate =
        some found) : ⟨.blank label, predicate, found⟩ ∈ graph := by
    obtain ⟨⟨subject, predicate', object'⟩, first, rfl⟩ := Option.map_eq_some_iff.1 read
    obtain ⟨mem, rfl⟩ := ShapeIndex.mem_about_blankDetails.1 (List.mem_of_find?_eq_some first)
    have same : predicate' = predicate := by simpa using List.find?_some first
    exact same ▸ mem
  refine ⟨stated, fun mem => ?_⟩
  have there : (PropertyShape.object? ((ShapeIndex.blankDetails graph).about (.blank label))
      predicate).isSome := by
    rw [PropertyShape.object?, Option.isSome_map, List.find?_isSome]
    exact ⟨_, ShapeIndex.mem_about_blankDetails.2 ⟨mem, rfl⟩, decide_eq_true rfl⟩
  obtain ⟨found, read⟩ := Option.isSome_iff_exists.1 there
  rw [read, single _ _ (stated read) mem]

/-- The name that is read is the derived one. -/
theorem nameOf_eq_iff (single : graph.Single (.blank label) Shacl.name) :
    PropertyShape.nameOf path
        (PropertyShape.object? ((ShapeIndex.blankDetails graph).about (.blank label)) Shacl.name) =
      name ↔
    (∃ given : Literal, ⟨.blank label, Shacl.name, .literal given⟩ ∈ graph ∧
      name = Shape.sanitizedName given.value) ∨
    (∀ given : Literal, ⟨.blank label, Shacl.name, .literal given⟩ ∉ graph) ∧
      name = String.ofList (Shape.sanitize (Shape.localName path.toList)) := by
  simp only [← object?_blankDetails_iff single]
  cases PropertyShape.object? ((ShapeIndex.blankDetails graph).about (.blank label)) Shacl.name with
  | none => simp [PropertyShape.nameOf, eq_comm]
  | some given => cases given <;> simp [PropertyShape.nameOf, eq_comm]

/-- The property that is read of a property node. -/
def propertyAt? (graph : Graph) (node : Node) : Option PropertyShape :=
  PropertyShape.ofTriples? ((ShapeIndex.blankDetails graph).about node)

/-- No property is read of a node with an IRI. -/
theorem propertyAt?_iri (graph : Graph) (text : String) : propertyAt? graph (.iri text) = none := by
  rw [propertyAt?, ShapeIndex.about_blankDetails_iri]
  rfl

/-- A blank node states a property if and only if one of its name and path is read of it. -/
theorem exists_propertyAt?_iff (paths : graph.Single (.blank label) Shacl.path)
    (names : graph.Single (.blank label) Shacl.name) :
    (∃ property, propertyAt? graph (.blank label) = some property ∧
        property.name = name ∧ property.path = path) ↔
      StatesProperty graph (.blank label) name path := by
  constructor
  · rintro ⟨property, read, rfl, rfl⟩
    have stated := (object?_blankDetails_iff paths).1 (PropertyShape.ofTriples?_path read)
    obtain ⟨path, -, rfl⟩ := Option.map_eq_some_iff.1 read
    dsimp only at stated ⊢
    exact ⟨stated, (nameOf_eq_iff names).1 rfl⟩
  · rintro ⟨stated, named⟩
    refine ⟨_, Option.map_eq_some_iff.2 ⟨path, ?_, rfl⟩, (nameOf_eq_iff names).2 named, rfl⟩
    rw [(object?_blankDetails_iff paths).2 stated]
    rfl

end Reading

section Compiling

variable {triples : List Triple} {index : ShapeIndex} {definition : Definition} {shape : NodeShape}
  {node : Node} {label typeName : String} {taken : List String} {property : PropertyShape}
  {properties : List PropertyShape}

theorem bind_iri?_eq_some_iff {given : Option Term} {iri : String} :
    given.bind Term.iri? = some iri ↔ given = some (.iri iri) := by
  cases given <;> simp

/-- A property is usable if a supported datatype or the class of a shape is read for it. -/
theorem valueTypeName?_kindOf_isSome_iff {datatype cls : Option Term}
    (kind : property.kind = PropertyShape.kindOf datatype cls) :
    (valueTypeName? index property).isSome ↔
      (∃ iri, datatype = some (.iri iri) ∧ (Scalar.ofDatatype? iri).isSome) ∨
        ∃ iri, cls = some (.iri iri) ∧ (index.forClass? iri).isSome := by
  simp only [valueTypeName?, kind, PropertyShape.kindOf, ← bind_iri?_eq_some_iff]
  generalize datatype.bind Term.iri? = datatype
  generalize cls.bind Term.iri? = cls
  cases datatype with
  | none => cases cls <;> simp
  | some datatype =>
    cases supported : Scalar.ofDatatype? datatype with
    | none => cases cls <;> simp [supported]
    | some scalar => simp [supported]

/-- What is read of the kind of the values is the type of a field if and only if it is supported. -/
theorem valueTypeName?_isSome_iff (made : ShapeIndex.ofTriples triples = .ok index)
    (datatypes : index.graph.Single (.blank label) Shacl.datatype)
    (classes : index.graph.Single (.blank label) Shacl.valueClass)
    (read : propertyAt? index.graph (.blank label) = some property) :
    (valueTypeName? index property).isSome ↔ Supported index (.blank label) := by
  obtain ⟨path, -, rfl⟩ := Option.map_eq_some_iff.1 read
  rw [valueTypeName?_kindOf_isSome_iff rfl]
  simp only [object?_blankDetails_iff datatypes, object?_blankDetails_iff classes,
    ShapeIndex.forClass?_isSome_iff made]
  rfl

/-! ### Fields of usable properties -/

/-- A usable property whose name is its own, and is not used up, becomes a field. -/
theorem mem_propertyFields (mem : property ∈ properties)
    (usable : valueTypeName? index property = some typeName) (free : property.name ∉ taken)
    (own : ∀ other ∈ properties, (valueTypeName? index other).isSome →
      other.name = property.name → other = property) :
    propertyField property typeName ∈ propertyFields index taken properties := by
  induction properties generalizing taken with
  | nil => cases mem
  | cons first rest ih =>
    have later {used : List String} (other : first ≠ property) (free : property.name ∉ used) :
        propertyField property typeName ∈ propertyFields index used rest :=
      ih ((List.mem_cons.1 mem).resolve_left (Ne.symm other)) free
        fun p there => own p (List.mem_cons_of_mem _ there)
    unfold propertyFields
    cases known : valueTypeName? index first with
    | none =>
      refine later ?_ free
      rintro rfl
      rw [known] at usable
      cases usable
    | some firstType =>
      dsimp only
      split
      · rename_i used
        exact later (fun same => free (same ▸ used)) free
      · by_cases same : first.name = property.name
        · obtain rfl := own first List.mem_cons_self (by rw [known]; rfl) same
          rw [Option.some.inj (usable.symm.trans known)]
          exact List.mem_cons_self
        · refine List.mem_cons_of_mem _ (later (fun h => same (h ▸ rfl)) ?_)
          rw [List.mem_cons, not_or]
          exact ⟨Ne.symm same, free⟩

/-! ### Properties of a shape -/

theorem NodeShape.mem_objects {graph : Graph} {object : Term} {predicate : String} :
    object ∈ NodeShape.objects (graph.about node) node predicate ↔
      ⟨node, predicate, object⟩ ∈ graph := by
  simp only [NodeShape.objects, List.mem_map, List.mem_filter, Graph.mem_about, Bool.and_eq_true,
    decide_eq_true_eq]
  constructor
  · rintro ⟨⟨subject, stands, object⟩, ⟨⟨stated, rfl⟩, -, rfl⟩, rfl⟩
    exact stated
  · intro stated
    exact ⟨_, ⟨⟨stated, rfl⟩, rfl, rfl⟩, rfl⟩

/-- The target of a shape is stated to be one. -/
theorem ShapeIndex.stated_of_targetClass {graph : Graph}
    (read : (shapeAt graph node).targetClass = some cls) :
    ⟨node, Shacl.targetClass, .iri cls⟩ ∈ graph := by
  obtain ⟨object, mem, isIri⟩ := List.exists_of_findSome?_eq_some read
  rw [Term.iri?_eq_some_iff.1 isIri, NodeShape.mem_objects] at mem
  exact mem

/-- A shape has a target if a class is stated to be one. -/
theorem ShapeIndex.isSome_targetClass {graph : Graph}
    (stated : ⟨node, Shacl.targetClass, .iri cls⟩ ∈ graph) :
    (shapeAt graph node).targetClass.isSome :=
  List.findSome?_isSome_iff.2 ⟨.iri cls, NodeShape.mem_objects.2 stated, rfl⟩

/-- A property of a shape is read from a property node, and this is a blank node. -/
theorem ShapeIndex.mem_properties_shapeAt {graph : Graph} :
    property ∈ (shapeAt graph node).properties ↔
      ∃ label, ⟨node, Shacl.property, .node (.blank label)⟩ ∈ graph ∧
        propertyAt? graph (.blank label) = some property := by
  rw [shapeAt, NodeShape.ofNode, Text.mem_sortBy, List.mem_filterMap]
  constructor
  · rintro ⟨object, mem, read⟩
    obtain ⟨other, isNode, read⟩ := Option.bind_eq_some_iff.1 read
    rw [Term.node?_eq_some_iff.1 isNode, NodeShape.mem_objects] at mem
    cases other with
    | iri text => cases read.symm.trans (propertyAt?_iri graph text)
    | blank label => exact ⟨label, mem, read⟩
  · rintro ⟨label, stated, read⟩
    exact ⟨.node (.blank label), NodeShape.mem_objects.2 stated, read⟩

section Properties

variable {graph : Graph} (stated : WellStated graph)
  (typed : Graph.typing node Shacl.nodeShape ∈ graph)

include stated typed

/-- A property of a shape is stated by the node that it is read from. -/
theorem WellStated.exists_states (mem : property ∈ (ShapeIndex.shapeAt graph node).properties) :
    ∃ label, graph.HasProperty node (.blank label) ∧
      propertyAt? graph (.blank label) = some property ∧
      StatesProperty graph (.blank label) property.name property.path := by
  obtain ⟨label, there, read⟩ := ShapeIndex.mem_properties_shapeAt.1 mem
  have single := stated.single node _ ⟨typed, there⟩
  exact ⟨label, ⟨typed, there⟩, read, (exists_propertyAt?_iff
    (single _ (by simp)) (single _ (by simp))).1 ⟨property, read, rfl, rfl⟩⟩

/-- The properties of a shape are told apart by their names. -/
theorem WellStated.eq_of_name_eq {other : PropertyShape}
    (mem : property ∈ (ShapeIndex.shapeAt graph node).properties)
    (memOther : other ∈ (ShapeIndex.shapeAt graph node).properties)
    (same : other.name = property.name) : other = property := by
  obtain ⟨label, has, read, states⟩ := stated.exists_states typed mem
  obtain ⟨label', has', read', states'⟩ := stated.exists_states typed memOther
  rw [same] at states'
  obtain rfl := Node.blank.inj (stated.names node _ _ _ _ _ has has' states states')
  exact Option.some.inj (read'.symm.trans read)

end Properties

/-! ### Entity types -/

/-- An entity type has the identifier and one field for each supported property that a blank property
node of a shape states, and nothing else. -/
structure CompiledFrom (index : ShapeIndex) (shape : Node) (type : ObjectType) : Prop where
  /-- There is one field of the name of the identifier, and it is the identifier. -/
  identifier : type.fields.filter (·.name = identifierField) = [identifierFieldOf]
  /-- There is exactly one field for each supported property. -/
  complete : ∀ label name path, index.graph.HasProperty shape (.blank label) →
    StatesProperty index.graph (.blank label) name path → Supported index (.blank label) →
    type.fields.countP (fun field => field.name = name ∧ field.property? = some path) = 1
  /-- There is no other field. -/
  only : ∀ field ∈ type.fields, field = identifierFieldOf ∨
    ∃ label, index.graph.HasProperty shape (.blank label) ∧
      (∃ path, StatesProperty index.graph (.blank label) field.name path ∧
        field.property? = some path) ∧ Supported index (.blank label)

/-- Of fields with different names, exactly one has the name and the predicate of one of them. -/
theorem countP_name_eq_one {fields : List Field} (distinct : (fields.map Field.name).Nodup)
    {field : Field} (mem : field ∈ fields) :
    fields.countP (fun other => other.name = field.name ∧ other.property? = field.property?) = 1 := by
  refine Nat.le_antisymm ?_ (List.countP_pos_iff.2 ⟨field, mem, decide_eq_true ⟨rfl, rfl⟩⟩)
  calc fields.countP (fun other => other.name = field.name ∧ other.property? = field.property?)
      ≤ fields.countP (fun other => other.name = field.name) :=
        List.countP_mono_left fun _ _ h => decide_eq_true (of_decide_eq_true h).1
    _ = (fields.map Field.name).count field.name := by
        rw [List.count_eq_countP, List.countP_map]
        rfl
    _ ≤ 1 := List.nodup_iff_count.1 distinct _

/-- The entity type of a shape is compiled from the property nodes of the shape. -/
theorem compiledFrom_entityType (made : ShapeIndex.ofTriples triples = .ok index)
    (stated : WellStated index.graph) (typed : Graph.typing node Shacl.nodeShape ∈ index.graph) :
    CompiledFrom index node (entityType index (ShapeIndex.shapeAt index.graph node)) := by
  have usable_iff {label : String} {property : PropertyShape}
      (has : index.graph.HasProperty node (.blank label))
      (read : propertyAt? index.graph (.blank label) = some property) :
      (valueTypeName? index property).isSome ↔ Supported index (.blank label) :=
    valueTypeName?_isSome_iff made (stated.single node _ has _ (by simp))
      (stated.single node _ has _ (by simp)) read
  refine ⟨?_, fun label name path has states supported => ?_, fun field mem => ?_⟩
  · have others : ∀ field ∈ propertyFields index [identifierField]
        (ShapeIndex.shapeAt index.graph node).properties, field.name ≠ identifierField := by
      intro field mem
      obtain ⟨property, -, typeName, -, rfl, free⟩ := exists_property_of_mem_propertyFields mem
      exact fun same => free (List.mem_singleton.2 same)
    have none : (propertyFields index [identifierField]
        (ShapeIndex.shapeAt index.graph node).properties).filter (·.name = identifierField) = [] :=
      List.filter_eq_nil_iff.2 fun field mem same => others field mem (of_decide_eq_true same)
    exact congrArg (identifierFieldOf :: ·) none
  · have single := stated.single node _ has
    obtain ⟨property, read, rfl, rfl⟩ := (exists_propertyAt?_iff
      (single _ (by simp)) (single _ (by simp))).2 states
    have mem := ShapeIndex.mem_properties_shapeAt.2 ⟨label, has.2, read⟩
    obtain ⟨typeName, usable⟩ := Option.isSome_iff_exists.1 ((usable_iff has read).2 supported)
    have free : property.name ∉ [identifierField] := by
      rw [List.mem_singleton]
      intro named
      exact stated.identifier node _ _ has (named ▸ states)
    exact countP_name_eq_one (nodup_entityType index _) (List.mem_cons_of_mem _
      (mem_propertyFields mem usable free fun other there _ same =>
        stated.eq_of_name_eq typed mem there same))
  · rcases List.mem_cons.1 mem with rfl | mem
    · exact Or.inl rfl
    · obtain ⟨property, there, typeName, usable, rfl, -⟩ := exists_property_of_mem_propertyFields mem
      obtain ⟨label, has, read, states⟩ := stated.exists_states typed there
      exact Or.inr ⟨label, has, ⟨property.path, states, rfl⟩,
        (usable_iff has read).1 (by rw [usable]; rfl)⟩

/-- In a well stated graph the first shape of a name is the shape of the node. -/
theorem ShapeIndex.named?_shapeAt (made : ofTriples triples = .ok index)
    (stated : WellStated index.graph) (typed : Graph.typing node Shacl.nodeShape ∈ index.graph) :
    index.named? (NodeShape.nameOf node) = some (shapeAt index.graph node) := by
  obtain ⟨-, shapes, -⟩ := eq_of_ofTriples made
  have mem : shapeAt index.graph node ∈ index.shapes := by
    rw [shapes]
    exact mem_shapesOf.2 ⟨node, typed, rfl⟩
  obtain ⟨first, inShapes, named, same⟩ := Schema.exists_named?_of_mem mem
  rw [shapes] at inShapes
  obtain ⟨other, isShape, rfl⟩ := mem_shapesOf.1 inShapes
  rw [name_shapeAt] at named
  rw [named, stated.shapes other node isShape typed same]

/-- In a well stated graph the entity type of the shape of a node is in the schema. -/
theorem mem_entitiesOf_shapeAt (made : ShapeIndex.ofTriples triples = .ok index)
    (stated : WellStated index.graph) (typed : Graph.typing node Shacl.nodeShape ∈ index.graph) :
    entityType index (ShapeIndex.shapeAt index.graph node) ∈ entitiesOf index :=
  mem_entitiesOf.2 (congrArg (Option.map _) (ShapeIndex.named?_shapeAt made stated typed))

/-- Each node shape of a well stated graph has one entity type in the schema, and this is compiled from
the property nodes of the shape. -/
theorem entity_compiled (made : ShapeIndex.ofTriples triples = .ok index)
    (generated : Definition.ofIndex index = .ok definition) (stated : WellStated index.graph)
    (typed : Graph.typing node Shacl.nodeShape ∈ index.graph) :
    ∃ type ∈ definition.objects, type.kind = .entity ∧ type.name = NodeShape.nameOf node ∧
      (∀ other ∈ definition.objects, other.kind = .entity → other.name = type.name → other = type) ∧
      CompiledFrom index node type := by
  have isOf := ShapeIndex.isOf_of_ofIndex made generated
  have inSchema := mem_entitiesOf_shapeAt made stated typed
  refine ⟨_, (isOf.mem_entitiesOf_iff.1 inSchema).1, rfl, rfl, fun other mem kind same => ?_,
    compiledFrom_entityType made stated typed⟩
  have found := mem_entitiesOf.1 (isOf.mem_entitiesOf_iff.2 ⟨mem, kind⟩)
  rw [same] at found
  exact Option.some.inj (found.symm.trans (mem_entitiesOf.1 inSchema))

end Compiling

/-! ### Contacts with an address -/

/-- The node of a shape of contacts. -/
def mailShape : Node := .iri "http://example.org/shapes#ContactShape"

/-- The predicate of the addresses of contacts. -/
def mailPath : String := "http://schema.org/email"

/-- The triples of the shape of contacts with an address, given the property node of the address. -/
def mailTriples (node : Node) : List Triple :=
  [Graph.typing mailShape Shacl.nodeShape,
   ⟨mailShape, Shacl.targetClass, .iri Resolution.AddressBook.person⟩,
   ⟨mailShape, Shacl.property, .node node⟩, ⟨node, Shacl.path, .iri mailPath⟩,
   ⟨node, Shacl.datatype, .iri Xsd.string⟩]

section Mail

variable {node shape : Node} {triples : List Triple} {index : ShapeIndex} {definition : Definition}

theorem mem_mailTriples_of_subject (other : node ≠ mailShape) {predicate : String} {object : Term} :
    ⟨node, predicate, object⟩ ∈ Graph.ofList (mailTriples node) ↔
      predicate = Shacl.path ∧ object = .iri mailPath ∨
        predicate = Shacl.datatype ∧ object = .iri Xsd.string := by
  simp [mailTriples, Graph.typing, other]

theorem typing_mem_mailTriples :
    Graph.typing shape Shacl.nodeShape ∈ Graph.ofList (mailTriples node) ↔ shape = mailShape := by
  have apart : RdfSyntax.type ≠ Shacl.targetClass ∧ RdfSyntax.type ≠ Shacl.property ∧
      RdfSyntax.type ≠ Shacl.path ∧ RdfSyntax.type ≠ Shacl.datatype := by decide
  simp [mailTriples, Graph.typing, apart]

theorem hasProperty_mailTriples {object : Node} :
    (Graph.ofList (mailTriples node)).HasProperty shape object ↔
      shape = mailShape ∧ object = node := by
  have apart : Shacl.property ≠ RdfSyntax.type ∧ Shacl.property ≠ Shacl.targetClass ∧
      Shacl.property ≠ Shacl.path ∧ Shacl.property ≠ Shacl.datatype := by decide
  rw [Graph.HasProperty, typing_mem_mailTriples]
  simp +contextual [mailTriples, Graph.typing, apart]

/-- The property node states the address. -/
theorem statesProperty_mailTriples (other : node ≠ mailShape) {name path : String} :
    StatesProperty (Graph.ofList (mailTriples node)) node name path ↔
      name = "email" ∧ path = mailPath := by
  have unnamed (given : Literal) :
      ⟨node, Shacl.name, .literal given⟩ ∉ Graph.ofList (mailTriples node) := by
    rw [mem_mailTriples_of_subject other]
    rintro (⟨-, same⟩ | ⟨-, same⟩) <;> cases same
  have derived : String.ofList (Shape.sanitize (Shape.localName mailPath.toList)) = "email" := by
    decide
  constructor
  · rintro ⟨stated, named⟩
    rcases (mem_mailTriples_of_subject other).1 stated with ⟨-, same⟩ | ⟨same, -⟩
    · obtain rfl : path = mailPath := by simpa using same
      rcases named with ⟨given, there, -⟩ | ⟨-, named⟩
      · exact absurd there (unnamed given)
      · exact ⟨named.trans derived, rfl⟩
    · exact absurd same (by decide)
  · rintro ⟨rfl, rfl⟩
    exact ⟨(mem_mailTriples_of_subject other).2 (Or.inl ⟨rfl, rfl⟩), Or.inr ⟨unnamed, derived.symm⟩⟩

theorem wellStated_mailTriples (other : node ≠ mailShape) :
    WellStated (Graph.ofList (mailTriples node)) := by
  refine ⟨fun shape other typed typed' _ => ?_, fun shape property has predicate _ => ?_,
    fun shape property property' _ _ _ has has' _ _ => ?_, fun shape property path has states => ?_⟩
  · rw [typing_mem_mailTriples.1 typed, typing_mem_mailTriples.1 typed']
  · obtain ⟨-, rfl⟩ := hasProperty_mailTriples.1 has
    intro object object' stated stated'
    rcases (mem_mailTriples_of_subject other).1 stated with ⟨rfl, rfl⟩ | ⟨rfl, rfl⟩
    · rcases (mem_mailTriples_of_subject other).1 stated' with ⟨-, rfl⟩ | ⟨same, -⟩
      · rfl
      · exact absurd same (by decide)
    · rcases (mem_mailTriples_of_subject other).1 stated' with ⟨same, -⟩ | ⟨-, rfl⟩
      · exact absurd same (by decide)
      · rfl
  · rw [(hasProperty_mailTriples.1 has).2, (hasProperty_mailTriples.1 has').2]
  · obtain ⟨-, rfl⟩ := hasProperty_mailTriples.1 has
    exact absurd ((statesProperty_mailTriples other).1 states).1 (by decide)

theorem supported_mailTriples (other : node ≠ mailShape)
    (graph : index.graph = Graph.ofList (mailTriples node)) : Supported index node := by
  refine Or.inl ⟨Xsd.string, ?_, by decide⟩
  rw [graph]
  exact (mem_mailTriples_of_subject other).2 (Or.inr ⟨rfl, rfl⟩)

end Mail

/-- The property node of the address is blank, and the contacts have a field for it. -/
theorem entity_compiled_mail :
    ∃ index definition, ShapeIndex.ofTriples (mailTriples (.blank "b0")) = .ok index ∧
      Definition.ofIndex index = .ok definition ∧ WellStated index.graph ∧
      Graph.typing mailShape Shacl.nodeShape ∈ index.graph ∧
      ∃ type ∈ definition.objects, type.name = "Contact" ∧ CompiledFrom index mailShape type ∧
        type.fields.countP
          (fun field => field.name = "email" ∧ field.property? = some mailPath) = 1 := by
  have other : Node.blank "b0" ≠ mailShape := nofun
  obtain ⟨index, definition, made, generated, -⟩ :=
    ShapeIndex.exists_schema (mailTriples (.blank "b0"))
  have graph := (ShapeIndex.eq_of_ofTriples made).1
  have stated : WellStated index.graph := graph ▸ wellStated_mailTriples other
  have typed : Graph.typing mailShape Shacl.nodeShape ∈ index.graph :=
    graph ▸ typing_mem_mailTriples.2 rfl
  obtain ⟨type, mem, -, name, -, compiled⟩ := entity_compiled made generated stated typed
  refine ⟨index, definition, made, generated, stated, typed, type, mem, ?_, compiled, ?_⟩
  · rw [name]
    decide
  · exact compiled.complete "b0" "email" mailPath (graph ▸ hasProperty_mailTriples.2 ⟨rfl, rfl⟩)
      (graph ▸ (statesProperty_mailTriples other).2 ⟨rfl, rfl⟩) (supported_mailTriples other graph)

/-- The property node of the address has an IRI, and the contacts have no field for it. -/
theorem iri_property_not_compiled :
    ∃ index definition,
      ShapeIndex.ofTriples (mailTriples (.iri "http://example.org/shapes#email")) = .ok index ∧
      Definition.ofIndex index = .ok definition ∧ WellStated index.graph ∧
      index.graph.HasProperty mailShape (.iri "http://example.org/shapes#email") ∧
      StatesProperty index.graph (.iri "http://example.org/shapes#email") "email" mailPath ∧
      Supported index (.iri "http://example.org/shapes#email") ∧
      ∃ type ∈ definition.objects, type.kind = .entity ∧ type.name = "Contact" ∧
        type.fields.countP
          (fun field => field.name = "email" ∧ field.property? = some mailPath) = 0 := by
  have other : Node.iri "http://example.org/shapes#email" ≠ mailShape := by decide
  obtain ⟨index, definition, made, generated, isOf⟩ :=
    ShapeIndex.exists_schema (mailTriples (.iri "http://example.org/shapes#email"))
  have graph := (ShapeIndex.eq_of_ofTriples made).1
  have stated : WellStated index.graph := graph ▸ wellStated_mailTriples other
  have typed : Graph.typing mailShape Shacl.nodeShape ∈ index.graph :=
    graph ▸ typing_mem_mailTriples.2 rfl
  have compiled := compiledFrom_entityType made stated typed
  refine ⟨index, definition, made, generated, stated, graph ▸ hasProperty_mailTriples.2 ⟨rfl, rfl⟩,
    graph ▸ (statesProperty_mailTriples other).2 ⟨rfl, rfl⟩, supported_mailTriples other graph, _,
    (isOf.mem_entitiesOf_iff.1 (mem_entitiesOf_shapeAt made stated typed)).1, rfl, ?_,
    List.countP_eq_zero.2 fun field mem => ?_⟩
  · change NodeShape.nameOf mailShape = "Contact"
    decide
  · -- the only property node is not blank
    rcases compiled.only field mem with rfl | ⟨label, has, -⟩
    · decide
    · rw [graph] at has
      cases (hasProperty_mailTriples.1 has).2

end LinkedShapes
