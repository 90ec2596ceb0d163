import LinkedShapes.Proofs.FieldKinds
import LinkedShapes.Schema.Text

/-!
# The fields of entities

An entity type is made of the properties of a shape in one pass over their list, which is in the order of
their names. A property without a usable type is passed over and takes no name, so that a later property of
its name can still become a field; of several usable ones the first becomes the field. So what the fields
are can be said without the pass: besides the identifier there is one field for each name that some usable
property has, in the order of the names, and it is made of the first usable property of the name.

## Main statements

* `exists_field_of_usable`, `sublist_propertyFields`: which names become fields, and in which order.
* `areFieldsOf_propertyFields`: the fields that are made of a list of properties in order.
* `object_types_exact`: the object types of shapes, whatever was asked of a generation before.
-/

namespace LinkedShapes.Schema

open Rdf

/-! ### What fields are made of -/

/-- The values of a property have a type: they are scalars, or instances of a class that some shape has as
its target. -/
def Usable (index : ShapeIndex) (property : PropertyShape) : Prop :=
  property.kind.IsScalar ∨
    ∃ cls, property.kind = .relation cls ∧ ∃ shape ∈ index.shapes, shape.targetClass = some cls

/-- A property is the first one of a name in a list that is usable. -/
def IsFirstUsable (index : ShapeIndex) (properties : List PropertyShape) (name : String)
    (property : PropertyShape) : Prop :=
  property.name = name ∧ Usable index property ∧
    ∃ before after, properties = before ++ property :: after ∧
      ∀ other ∈ before, other.name = name → ¬ Usable index other

/-- A field stands for a property. -/
structure Field.StandsFor (field : Field) (index : ShapeIndex) (property : PropertyShape) : Prop where
  /-- The field has the name of the property. -/
  name : field.name = property.name
  /-- Its values are the scalars of the property, or entities of the shape of its class. -/
  type : (∃ scalar datatype, property.kind = .scalar scalar datatype ∧
      field.type.name = scalar.name) ∨
    ∃ cls target, property.kind = .relation cls ∧ index.forClass? cls = some target ∧
      field.type.name = target.name
  /-- There is a list of them unless their number is limited to one or none. -/
  list : field.type.list = true ↔
    property.maxCount = none ∨ ∃ count, property.maxCount = some count ∧ 1 < count
  /-- There must be one if a least number of them is stated that is not zero. -/
  nonNull : field.type.nonNull = true ↔ ∃ count, property.minCount = some count ∧ 0 < count
  /-- The items of a list may be null. -/
  items : field.type.itemNonNull = false
  /-- They are the values of the path. -/
  path : field.property? = some property.path
  /-- Nothing is asked for. -/
  arguments : field.arguments = []

/-- Fields are those of a list of properties: one for each name that a usable property has, but for the
name of the identifier, in the order of the names. -/
structure AreFieldsOf (fields : List Field) (index : ShapeIndex) (properties : List PropertyShape) :
    Prop where
  /-- The fields are in the order of their names, and no two have the same. -/
  ordered : fields.Pairwise (·.name < ·.name)
  /-- The name of each usable property is that of a field. -/
  complete : ∀ property ∈ properties, Usable index property → property.name ≠ identifierField →
    ∃ field ∈ fields, field.name = property.name
  /-- Each field stands for the first usable property of its name. -/
  first : ∀ field ∈ fields, field.name ≠ identifierField ∧
    ∃ property, IsFirstUsable index properties field.name property ∧ field.StandsFor index property

/-- An object type has the identifier, which is never null, and the fields of a list of properties. -/
def ObjectType.IsExact (type : ObjectType) (index : ShapeIndex) (properties : List PropertyShape) :
    Prop :=
  ∃ fields, AreFieldsOf fields index properties ∧
    type.fields = { name := "id", type := ⟨"ID", false, false, true⟩, directive := some .identifier } ::
      fields

/-! ### The pass over the properties -/

section Properties

variable {triples : List Triple} {index : ShapeIndex} {taken : List String} {typeName name : String}
  {properties : List PropertyShape} {property : PropertyShape}

theorem isSome_valueTypeName?_iff (made : ShapeIndex.ofTriples triples = .ok index) :
    (valueTypeName? index property).isSome = true ↔ Usable index property := by
  unfold valueTypeName? Usable
  cases kind : property.kind with
  | scalar scalar datatype => simp [ValueKind.IsScalar]
  | relation cls => simp [ValueKind.IsScalar, ShapeIndex.forClass?_isSome_iff made]
  | unsupported => simp [ValueKind.IsScalar]

/-- The first usable property of a name is what is found by its name and by having a type. -/
theorem isFirstUsable_of_find? (made : ShapeIndex.ofTriples triples = .ok index)
    (found : (properties.find? fun property =>
      property.name = name && (valueTypeName? index property).isSome) = some property) :
    IsFirstUsable index properties name property := by
  simp only [List.find?_eq_some_iff_append, Bool.and_eq_true, decide_eq_true_eq,
    isSome_valueTypeName?_iff made] at found
  obtain ⟨⟨named, usable⟩, before, after, split, passed⟩ := found
  refine ⟨named, usable, before, after, split, fun other earlier same usable => ?_⟩
  have passed := passed other earlier
  rw [(isSome_valueTypeName?_iff made).2 usable] at passed
  simp [same] at passed

/-- What becomes a field of a property whose values have a type. -/
theorem standsFor_propertyField (usable : valueTypeName? index property = some typeName) :
    (propertyField property typeName).StandsFor index property := by
  constructor
  case name => rfl
  case type =>
    rw [name_type_propertyField]
    unfold valueTypeName? at usable
    cases kind : property.kind with
    | scalar scalar datatype =>
      rw [kind] at usable
      exact Or.inl ⟨scalar, datatype, rfl, (Option.some.inj usable).symm⟩
    | relation cls =>
      rw [kind] at usable
      obtain ⟨target, found, rfl⟩ := Option.map_eq_some_iff.1 usable
      exact Or.inr ⟨cls, target, rfl, found, rfl⟩
    | unsupported =>
      rw [kind] at usable
      cases usable
  case list =>
    have kept : (propertyField property typeName).type.list = property.isList := by
      unfold propertyField
      dsimp only
      cases property.isList <;> cases property.isRequired <;> rfl
    rw [kept, PropertyShape.isList]
    cases property.maxCount <;> simp
  case nonNull =>
    have kept : (propertyField property typeName).type.nonNull = property.isRequired := by
      unfold propertyField
      dsimp only
      cases property.isList <;> cases property.isRequired <;> rfl
    rw [kept, PropertyShape.isRequired]
    cases property.minCount <;> simp
  case items =>
    unfold propertyField
    dsimp only
    cases property.isList <;> cases property.isRequired <;> rfl
  case path => rfl
  case arguments => rfl

/-- The fields are named in the order of the properties. -/
theorem sublist_propertyFields :
    ((propertyFields index taken properties).map Field.name).Sublist
      (properties.map PropertyShape.name) := by
  induction properties generalizing taken with
  | nil => exact List.Sublist.refl _
  | cons property rest ih =>
    unfold propertyFields
    split
    · exact ih.cons _
    · split
      · exact ih.cons _
      · exact ih.cons_cons _

/-- The name of a usable property becomes the name of a field, unless it is used up. -/
theorem exists_field_of_usable (there : property ∈ properties)
    (usable : (valueTypeName? index property).isSome = true) (free : property.name ∉ taken) :
    ∃ field ∈ propertyFields index taken properties, field.name = property.name := by
  induction properties generalizing taken with
  | nil => cases there
  | cons first rest ih =>
    unfold propertyFields
    split
    · rename_i unusable
      rcases List.mem_cons.1 there with rfl | there
      · simp [unusable] at usable
      · exact ih there free
    · split
      · rename_i used
        rcases List.mem_cons.1 there with rfl | there
        · exact absurd used free
        · exact ih there free
      · by_cases same : property.name = first.name
        · exact ⟨_, List.mem_cons_self, same.symm⟩
        · have later : property ∈ rest :=
            (List.mem_cons.1 there).resolve_left fun h => same (congrArg PropertyShape.name h)
          have free : property.name ∉ first.name :: taken := by simp [same, free]
          obtain ⟨field, mem, named⟩ := ih later free
          exact ⟨field, List.mem_cons_of_mem _ mem, named⟩

/-- What is made of properties in the order of their names, the name of the identifier being used up. -/
theorem areFieldsOf_propertyFields (made : ShapeIndex.ofTriples triples = .ok index)
    (sorted : properties.Pairwise (·.name ≤ ·.name)) :
    AreFieldsOf (propertyFields index [identifierField] properties) index properties := by
  constructor
  case ordered =>
    have ordered := (List.pairwise_map.2 sorted).sublist
      (@sublist_propertyFields index [identifierField] properties)
    have distinct := @nodup_propertyFields index [identifierField] properties
    refine List.pairwise_map.1 ((ordered.and distinct).imp fun {name other} ⟨le, different⟩ => ?_)
    by_contra notBefore
    exact different (String.le_antisymm le (String.not_lt.1 notBefore))
  case complete =>
    intro property there usable notIdentifier
    exact exists_field_of_usable there ((isSome_valueTypeName?_iff made).2 usable)
      (by simpa using notIdentifier)
  case first =>
    intro field mem
    obtain ⟨property, typeName, found, usable, stands⟩ := find?_of_mem_propertyFields mem
    refine ⟨by simpa using name_not_mem_taken mem, property, isFirstUsable_of_find? made found, ?_⟩
    rw [stands]
    exact standsFor_propertyField usable

end Properties

/-! ### The types of shapes -/

section Types

variable {triples : List Triple} {index : ShapeIndex} {shape : NodeShape}

theorem isExact_entityType (made : ShapeIndex.ofTriples triples = .ok index)
    (sorted : shape.properties.Pairwise (·.name ≤ ·.name)) :
    (entityType index shape).IsExact index shape.properties :=
  ⟨_, areFieldsOf_propertyFields made sorted, rfl⟩

/-- The properties of a shape are in the order of their names. -/
theorem pairwise_properties (made : ShapeIndex.ofTriples triples = .ok index)
    (mem : shape ∈ index.shapes) : shape.properties.Pairwise (·.name ≤ ·.name) := by
  rw [(ShapeIndex.eq_of_ofTriples made).2.1] at mem
  obtain ⟨node, -, rfl⟩ := ShapeIndex.mem_shapesOf.1 mem
  exact Text.sorted_sortBy _ _

end Types

/-- The object type that is made of properties in the order of their names is exact: it has the identifier
and one field for each name of a usable property, made of the first one. So is what a generation answers for
the name of a shape, whatever it was asked before, and so are the entities of the whole schema; the properties
are those of the first shape of the name. -/
theorem object_types_exact {triples : List Triple} {index : ShapeIndex}
    (made : ShapeIndex.ofTriples triples = .ok index) :
    (∀ shape : NodeShape, shape.properties.Pairwise (·.name ≤ ·.name) →
      (entityType index shape).IsExact index shape.properties) ∧
    (∀ (calls : List GenerationCall) (name : String) (shape : NodeShape),
      index.named? name = some shape → ∃ type after,
        (Generation.object name).runOn ((Generator.ofIndex index).after calls) = (.ok type, after) ∧
        type.name = name ∧ type.IsExact index shape.properties) ∧
    ∀ definition, Definition.ofIndex index = .ok definition →
      definition.entities.map ObjectType.name = index.shapes.map NodeShape.name ∧
      ∀ type ∈ definition.entities, ∃ shape ∈ index.shapes,
        index.named? type.name = some shape ∧ type.IsExact index shape.properties := by
  have exact_of_named {name : String} {shape : NodeShape} (named : index.named? name = some shape) :
      (entityType index shape).IsExact index shape.properties :=
    isExact_entityType made (pairwise_properties made (List.mem_of_find?_eq_some named))
  refine ⟨fun shape sorted => isExact_entityType made sorted, ?_, ?_⟩
  · intro calls name shape named
    have found : entityNamed? index name = some (entityType index shape) :=
      congrArg (Option.map _) named
    have kept := (Generator.Kept.ofIndex index).after (ShapeIndex.closed_of_ofTriples made) calls
    obtain ⟨after, ran, -⟩ := Generation.gives_object found _ kept.sound
    exact ⟨_, after, ran, name_of_entityNamed? found, exact_of_named named⟩
  · intro definition generated
    have isOf := ShapeIndex.isOf_of_ofIndex made generated
    rw [isOf.entities_eq]
    refine ⟨map_name_entitiesOf index, fun type mem => ?_⟩
    obtain ⟨shape, named, rfl⟩ := Option.map_eq_some_iff.1 (mem_entitiesOf.1 mem)
    exact ⟨shape, List.mem_of_find?_eq_some named, named, exact_of_named named⟩

/-! ### Contacts with an age -/

/-- The index of a shape of contacts. -/
def contactIndex : ShapeIndex :=
  let shape := Node.iri "http://example.org/shapes#ContactShape"
  ShapeIndex.indexOf [Graph.typing shape Shacl.nodeShape,
    ⟨shape, Shacl.targetClass, .iri Resolution.AddressBook.person⟩]

/-- The shape with three properties that are named `age`, of which the first one is not supported, a property
that is named as the identifier, and two relations of one name, of which the first one is to no shape. -/
def agesShape : NodeShape :=
  let property (name path : String) (kind : ValueKind) : PropertyShape :=
    { name, path := "http://schema.org/" ++ path, kind, minCount := none, maxCount := none }
  { id := .iri "http://example.org/shapes#ContactShape"
    name := "Contact"
    targetClass := some Resolution.AddressBook.person
    properties :=
      [property "age" "birthDate" .unsupported,
       { property "age" "age" (.scalar .int Xsd.int) with minCount := some 1, maxCount := some 1 },
       property "age" "typicalAgeRange" (.scalar .string Xsd.string),
       property "id" "identifier" (.scalar .string Xsd.string),
       property "partner" "spouse" (.relation "http://schema.org/Unknown"),
       property "partner" "knows" (.relation Resolution.AddressBook.person)] }

/-- Contacts have a number for their age and a list of partners. -/
theorem object_types_exact_ages :
    agesShape.properties.Pairwise (·.name ≤ ·.name) ∧
    ∃ fields, AreFieldsOf fields contactIndex agesShape.properties ∧
      fields.map Field.text =
        ["age: Int! @property(iri: \"http://schema.org/age\")",
         "partner: [Contact] @property(iri: \"http://schema.org/knows\")"] := by
  have sorted : agesShape.properties.Pairwise (·.name ≤ ·.name) := by decide +kernel
  have texts : ((entityType contactIndex agesShape).fields.map Field.text).tail =
      ["age: Int! @property(iri: \"http://schema.org/age\")",
       "partner: [Contact] @property(iri: \"http://schema.org/knows\")"] := by
    decide +kernel
  have isExact : (entityType contactIndex agesShape).IsExact contactIndex agesShape.properties :=
    (object_types_exact (ShapeIndex.ofTriples_eq_indexOf _)).1 agesShape sorted
  obtain ⟨fields, areFields, made⟩ := isExact
  rw [made] at texts
  exact ⟨sorted, fields, areFields, texts⟩

end LinkedShapes.Schema
