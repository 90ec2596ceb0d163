import LinkedShapes.Proofs.FieldNames
import LinkedShapes.Proofs.Values

/-!
# Scalars and relations

A property has scalars or is a relation. The field that is made for it keeps the name of the type of its
values and nothing else of this: whether the field is resolved as scalars or by following links, whether it
can be written in an input or is changed by mutators, is read off the name again. A relation has the name of
the type of a shape, which may be any local name. If it is that of a scalar, the relation is taken for this
scalar, everywhere alike; under all other names scalars and relations are told apart.

## Main statements

* `exists_sourceOf?`: the property that a field was made for.
* `TreatsAsScalar`, `TreatsAsRelation`: all that a schema and the resolution of a field make of it.
* `Definition.IsOf.treatsAsScalar`, `Definition.IsOf.treatsAsRelation`: it depends on the name of the type.
* `field_kinds_apart_iff`: which fields are taken for what their properties are.
* `same_taken_for_text`: a relation that is taken for a scalar.
-/

namespace LinkedShapes

/-- The values are scalars. -/
def ValueKind.IsScalar (kind : ValueKind) : Prop := ∃ scalar datatype, kind = .scalar scalar datatype

/-- The names that stand for scalars. -/
def Scalar.names : List String := ["Int", "Float", "String", "ID", "Boolean"]

theorem Scalar.ofName?_eq_none_iff {name : String} : ofName? name = none ↔ name ∉ names := by
  unfold ofName? names
  constructor
  · intro unknown
    repeat' split at unknown
    all_goals simp_all
  · intro other
    simp_all

end LinkedShapes

namespace LinkedShapes.Schema

open Rdf Resolution

/-! ### The property of a field -/

/-- The property that a field of an entity is made for: the first one of its name whose values have a type,
in the shape of the entity. -/
def sourceOf? (index : ShapeIndex) (entity : ObjectType) (field : Field) : Option PropertyShape :=
  (index.named? entity.name).bind fun shape =>
    shape.properties.find? fun property =>
      property.name = field.name && (valueTypeName? index property).isSome

section Sources

variable {index : ShapeIndex} {entity : ObjectType} {field : Field} {taken : List String}
  {properties : List PropertyShape}

theorem name_not_mem_taken (mem : field ∈ propertyFields index taken properties) :
    field.name ∉ taken := by
  obtain ⟨property, -, typeName, -, rfl, free⟩ := exists_property_of_mem_propertyFields mem
  exact free

/-- A field is made for the first property of its name that is usable. -/
theorem find?_of_mem_propertyFields (mem : field ∈ propertyFields index taken properties) :
    ∃ property typeName,
      (properties.find? fun property =>
        property.name = field.name && (valueTypeName? index property).isSome) = some property ∧
      valueTypeName? index property = some typeName ∧ field = propertyField property typeName := by
  induction properties generalizing taken with
  | nil => cases mem
  | cons property rest ih =>
    -- a property that is not made a field here is passed over by the search, too
    have later {used : List String} (mem : field ∈ propertyFields index used rest)
        (passed : property.name = field.name → valueTypeName? index property = none) :
        ∃ found typeName,
          ((property :: rest).find? fun property =>
            property.name = field.name && (valueTypeName? index property).isSome) = some found ∧
          valueTypeName? index found = some typeName ∧ field = propertyField found typeName := by
      obtain ⟨found, typeName, first, usable, made⟩ := ih mem
      refine ⟨found, typeName, ?_, usable, made⟩
      rw [List.find?_cons_of_neg, first]
      intro chosen
      simp only [Bool.and_eq_true, decide_eq_true_eq] at chosen
      simp [passed chosen.1] at chosen
    unfold propertyFields at mem
    split at mem
    · rename_i unusable
      exact later mem fun _ => unusable
    · rename_i typeName usable
      split at mem
      · rename_i used
        exact later mem fun same => absurd (same ▸ used) (name_not_mem_taken mem)
      · rcases List.mem_cons.1 mem with rfl | mem
        · exact ⟨property, typeName, by simp [usable, propertyField], usable, rfl⟩
        · exact later mem fun same =>
            absurd (List.mem_cons.2 (.inl same.symm)) (name_not_mem_taken mem)

/-- A field of an entity that stands for a predicate was made for a property. -/
theorem exists_sourceOf? (inSchema : entity ∈ entitiesOf index) (there : field ∈ entity.fields)
    (stands : field.property?.isSome = true) :
    ∃ property typeName, sourceOf? index entity field = some property ∧
      valueTypeName? index property = some typeName ∧ field = propertyField property typeName := by
  have known := mem_entitiesOf.1 inSchema
  obtain ⟨shape, named, rfl⟩ := Option.map_eq_some_iff.1 known
  rcases List.mem_cons.1 there with rfl | mem
  · cases stands
  · obtain ⟨property, typeName, first, usable, made⟩ := find?_of_mem_propertyFields mem
    refine ⟨property, typeName, ?_, usable, made⟩
    rw [sourceOf?, named, Option.bind_some, first]

end Sources

/-! ### What is made of a field -/

/-- A field of an entity is taken for one of scalars: it is read as scalars, both inputs of the entity write
it, and the fields of the mutator are about others. -/
structure Definition.TreatsAsScalar (definition : Definition) (entity : ObjectType) (field : Field)
    (scalar : Scalar) : Prop where
  /-- The type of the field is the scalar. -/
  type : field.type.scalar? = some scalar
  /-- The field is resolved as scalars. -/
  resolved : ∀ (resolver : Resolver) (request : Request) (property : String), request.field = field →
    field.property? = some property →
    resolver.resolve request = scalarProperty request property scalar
  /-- The input of a creation writes the property. -/
  create : ∃ input ∈ definition.inputs, input.name = createInputName entity.name ∧
    ∃ written ∈ input.fields, written.name = field.name ∧ written.type = field.type ∧
      written.property? = field.property?
  /-- The input of an update writes the property. -/
  update : ∃ input ∈ definition.inputs, input.name = updateInputName entity.name ∧
    ∃ written ∈ input.fields, written.name = field.name ∧ written.type = field.type.nullable ∧
      written.property? = field.property?
  /-- A change of a relation is one of another field. -/
  mutators : ∀ mutator ∈ definition.objects, mutator.kind = .mutator entity.name →
    ∀ changed ∈ mutator.fields, changed.name ≠ "delete" → changed.name ≠ "update" →
      ∃ relation ∈ entity.fields, relation ≠ field ∧ ∃ change ∈ changesOf relation,
        changed = mutatorField (returnedBy entity) relation change

/-- A field of an entity is taken for a relation: it is read by following links, the mutator of the entity
has a field for each of its changes, and no input of the entity writes it. -/
structure Definition.TreatsAsRelation (definition : Definition) (entity : ObjectType) (field : Field) :
    Prop where
  /-- The type of the field is no scalar. -/
  type : field.type.scalar? = none
  /-- The field is resolved by following links. -/
  resolved : ∀ (resolver : Resolver) (request : Request) (property : String), request.field = field →
    field.property? = some property →
    resolver.resolve request = relationProperty resolver request property
  /-- The mutator has the changes of the field. -/
  mutators : ∃ mutator ∈ definition.objects, mutator.kind = .mutator entity.name ∧
    mutator.name = mutatorName entity.name ∧
    ∀ change ∈ changesOf field, mutatorField (returnedBy entity) field change ∈ mutator.fields
  /-- No input writes a property under the name of the field. -/
  inputs : ∀ input ∈ definition.inputs,
    input.name = createInputName entity.name ∨ input.name = updateInputName entity.name →
    ∀ written ∈ input.fields, written.property?.isSome = true → written.name ≠ field.name

section Treatment

variable {index : ShapeIndex} {definition : Definition} {entity : ObjectType} {field : Field}
  {input : InputType} {scalar : Scalar}

/-- The input field that writes a field of an entity. -/
def writing (index : ShapeIndex) (entity : ObjectType) (field : Field) : InputField :=
  { name := field.name, type := field.type, directive := field.directive,
    datatype := datatypeOf? (index.named? entity.name) field.name }

/-- The inputs of an entity write its scalar fields. -/
theorem mem_scalarInputs {written : InputField} :
    written ∈ scalarInputs index entity ↔
      ∃ field ∈ entity.fields, field.isScalarProperty = true ∧ written = writing index entity field := by
  unfold scalarInputs writing
  simp only [List.mem_map, List.mem_filter, and_assoc, eq_comm]

/-- The inputs of an entity are known by their names. -/
theorem Definition.IsOf.eq_inputOf (isOf : definition.IsOf index)
    (inSchema : entity ∈ entitiesOf index) (mem : input ∈ definition.inputs) :
    (input.name = createInputName entity.name → input = createInputOf index entity) ∧
      (input.name = updateInputName entity.name → input = updateInputOf index entity) := by
  obtain ⟨other, there, rfl | rfl⟩ := isOf.inputs input mem
  · refine ⟨fun same => ?_, fun same => ?_⟩
    · rw [eq_of_mem_entitiesOf there inSchema (createInputName_injective same)]
    · exact absurd same (createInputName_ne_updateInputName _ _)
  · refine ⟨fun same => ?_, fun same => ?_⟩
    · exact absurd same.symm (createInputName_ne_updateInputName _ _)
    · rw [eq_of_mem_entitiesOf there inSchema (updateInputName_injective same)]

/-- An input of an entity that writes a property writes a scalar field. -/
theorem Definition.IsOf.exists_field_of_written (isOf : definition.IsOf index)
    (inSchema : entity ∈ entitiesOf index) (mem : input ∈ definition.inputs)
    (named : input.name = createInputName entity.name ∨ input.name = updateInputName entity.name)
    {written : InputField} (there : written ∈ input.fields)
    (stands : written.property?.isSome = true) :
    ∃ field ∈ entity.fields, field.isScalarProperty = true ∧ written.name = field.name := by
  obtain ⟨creates, updates⟩ := isOf.eq_inputOf inSchema mem
  rcases named with named | named
  · rw [creates named, createInputOf, List.mem_append] at there
    rcases there with there | there
    · obtain ⟨field, mem, isScalar, rfl⟩ := mem_scalarInputs.1 there
      exact ⟨field, mem, isScalar, rfl⟩
    · -- the identifier and the slug stand for no predicate
      simp only [List.mem_cons, List.not_mem_nil, or_false] at there
      rcases there with rfl | rfl <;> cases stands
  · rw [updates named, updateInputOf, List.mem_map] at there
    obtain ⟨before, there, rfl⟩ := there
    obtain ⟨field, mem, isScalar, rfl⟩ := mem_scalarInputs.1 there
    exact ⟨field, mem, isScalar, rfl⟩

/-- A field whose type has the name of a scalar is taken for one of this scalar. -/
theorem Definition.IsOf.treatsAsScalar (isOf : definition.IsOf index)
    (inSchema : entity ∈ entitiesOf index) (there : field ∈ entity.fields)
    (stands : field.property?.isSome = true) (scalars : field.type.scalar? = some scalar) :
    definition.TreatsAsScalar entity field scalar := by
  have isScalar : field.isScalarProperty = true := by simp [Field.isScalarProperty, stands, scalars]
  have written : writing index entity field ∈ scalarInputs index entity :=
    mem_scalarInputs.2 ⟨field, there, isScalar, rfl⟩
  constructor
  case type => exact scalars
  case resolved =>
    rintro resolver request property rfl named
    simp only [Resolver.resolve, directive_of_property? named, scalars]
  case create =>
    obtain ⟨input, mem, named⟩ :=
      isOf.exists_input (createInputName_mem_schemaNeeds (mem_entitiesOf.1 inSchema))
    refine ⟨input, mem, named, ?_⟩
    rw [(isOf.eq_inputOf inSchema mem).1 named]
    exact ⟨_, List.mem_append_left _ written, rfl, rfl, rfl⟩
  case update =>
    have filled : (updateInputOf index entity).fields.isEmpty = false := by
      rw [updateInputOf, List.isEmpty_map, List.isEmpty_eq_false_iff]
      exact List.ne_nil_of_mem written
    have needed : updateInputName entity.name ∈ schemaNeeds index := by
      refine List.mem_flatMap.2 ⟨entity, inSchema, ?_⟩
      simp [entityNeeds, updateNeeds, filled]
    obtain ⟨input, mem, named⟩ := isOf.exists_input needed
    refine ⟨input, mem, named, ?_⟩
    rw [(isOf.eq_inputOf inSchema mem).2 named]
    exact ⟨_, List.mem_map.2 ⟨_, written, rfl⟩, rfl, rfl, rfl⟩
  case mutators =>
    intro mutator mem kind changed mem' notDelete notUpdate
    obtain ⟨other, there', same, rfl⟩ := isOf.exists_entity_of_mutator mem kind
    obtain rfl := eq_of_mem_entitiesOf there' inSchema same
    rcases mem_mutatorFields.1 mem' with rfl | updates | ⟨relation, mem, isRelation, made⟩
    · exact absurd rfl notDelete
    · rw [eq_of_mem_updateFields updates] at notUpdate
      exact absurd rfl notUpdate
    · refine ⟨relation, mem, ?_, made⟩
      rintro rfl
      simp [Field.isRelation, scalars] at isRelation

/-- A field whose type has another name is taken for a relation. -/
theorem Definition.IsOf.treatsAsRelation (isOf : definition.IsOf index)
    (inSchema : entity ∈ entitiesOf index) (there : field ∈ entity.fields)
    (stands : field.property?.isSome = true) (entities : field.type.scalar? = none) :
    definition.TreatsAsRelation entity field := by
  have isRelation : field.isRelation = true := by simp [Field.isRelation, stands, entities]
  constructor
  case type => exact entities
  case resolved =>
    rintro resolver request property rfl named
    simp only [Resolver.resolve, directive_of_property? named, entities]
  case mutators =>
    refine ⟨mutatorOf index entity, isOf.mutatorOf_mem inSchema, rfl, rfl, fun change possible => ?_⟩
    exact mem_mutatorFields.2 (.inr (.inr ⟨field, there, isRelation, change, possible, rfl⟩))
  case inputs =>
    intro input mem named written inFields isProperty same
    obtain ⟨other, mem', isScalar, name⟩ :=
      isOf.exists_field_of_written inSchema mem named inFields isProperty
    -- the fields of an entity have different names
    have found := field?_of_mem_entitiesOf inSchema mem'
    rw [← name, same, field?_of_mem_entitiesOf inSchema there] at found
    obtain rfl := Option.some.inj found
    simp [Field.isScalarProperty, entities] at isScalar

end Treatment

/-- What becomes of a field that is made for a property with values of some kind. -/
inductive Definition.Treats (definition : Definition) (index : ShapeIndex) (entity : ObjectType)
    (field : Field) : ValueKind → Prop
  /-- Scalars are taken for scalars. -/
  | scalar {scalar : Scalar} {datatype : String}
    (treated : definition.TreatsAsScalar entity field scalar) :
    Treats definition index entity field (.scalar scalar datatype)
  /-- A relation to a shape whose name is not that of a scalar is taken for a relation. -/
  | relation {cls : String} {target : NodeShape} (linked : index.forClass? cls = some target)
    (type : field.type.name = target.name) (other : target.name ∉ Scalar.names)
    (treated : definition.TreatsAsRelation entity field) :
    Treats definition index entity field (.relation cls)
  /-- A relation to a shape with the name of a scalar is taken for the scalar. -/
  | mistaken {cls : String} {target : NodeShape} {scalar : Scalar}
    (linked : index.forClass? cls = some target) (type : field.type.name = target.name)
    (name : Scalar.ofName? target.name = some scalar)
    (treated : definition.TreatsAsScalar entity field scalar) :
    Treats definition index entity field (.relation cls)

/-- Whatever the kind of the property is, the field is treated according to the name of its type. -/
theorem Definition.IsOf.treats {index : ShapeIndex} {definition : Definition} {entity : ObjectType}
    {property : PropertyShape} {typeName : String} (isOf : definition.IsOf index)
    (inSchema : entity ∈ entitiesOf index)
    (there : propertyField property typeName ∈ entity.fields)
    (usable : valueTypeName? index property = some typeName) :
    definition.Treats index entity (propertyField property typeName) property.kind := by
  have stands : (propertyField property typeName).property?.isSome = true := rfl
  have type : (propertyField property typeName).type.scalar? = Scalar.ofName? typeName := by
    rw [TypeExpr.scalar?, name_type_propertyField]
  unfold valueTypeName? at usable
  cases kind : property.kind with
  | scalar scalar datatype =>
    simp only [kind, Option.some.injEq] at usable
    refine .scalar (isOf.treatsAsScalar inSchema there stands ?_)
    rw [type, ← usable, Scalar.ofName?_name]
  | relation cls =>
    simp only [kind] at usable
    obtain ⟨target, linked, rfl⟩ := Option.map_eq_some_iff.1 usable
    cases named : Scalar.ofName? target.name with
    | none =>
      refine .relation linked (name_type_propertyField _ _) (Scalar.ofName?_eq_none_iff.1 named) ?_
      exact isOf.treatsAsRelation inSchema there stands (type.trans named)
    | some scalar =>
      refine .mistaken linked (name_type_propertyField _ _) named ?_
      exact isOf.treatsAsScalar inSchema there stands (type.trans named)
  | unsupported => simp [kind] at usable

/-- A field that is treated so is taken for what its values are, unless it is a relation to a shape with the
name of a scalar. -/
theorem Definition.Treats.isScalar_iff {definition : Definition} {index : ShapeIndex}
    {entity : ObjectType} {field : Field} {kind : ValueKind}
    (treats : definition.Treats index entity field kind) :
    (field.type.scalar?.isSome = true ↔ kind.IsScalar) ↔
      ¬ ∃ cls, kind = .relation cls ∧ field.type.name ∈ Scalar.names := by
  cases treats with
  | scalar treated => simp [treated.type, ValueKind.IsScalar]
  | relation linked type other treated => simp [treated.type, ValueKind.IsScalar, type, other]
  | mistaken linked type name treated =>
    have mem : field.type.name ∈ Scalar.names := by
      by_contra other
      rw [type, ← Scalar.ofName?_eq_none_iff, name] at other
      cases other
    simp [treated.type, ValueKind.IsScalar, mem]

/-- In the schema of any shapes, a field of an entity that stands for a predicate is made for the first usable
property of its name. Where the property has scalars, it is taken for one of these scalars, by the resolution,
the inputs and the mutators alike. Where it is a relation, it is taken for one, unless the name of the
shape that it leads to is the name of a scalar, for which it is then taken. So whether the type of the
field is a scalar tells what the property is, for all fields but these. -/
theorem field_kinds_apart_iff {triples : List Triple} {index : ShapeIndex} {definition : Definition}
    {entity : ObjectType} {field : Field} (made : ShapeIndex.ofTriples triples = .ok index)
    (generated : Definition.ofIndex index = .ok definition) (inSchema : entity ∈ definition.entities)
    (there : field ∈ entity.fields) (stands : field.property?.isSome = true) :
    ∃ property, sourceOf? index entity field = some property ∧
      definition.Treats index entity field property.kind ∧
      ((field.type.scalar?.isSome = true ↔ property.kind.IsScalar) ↔
        ¬ ∃ cls, property.kind = .relation cls ∧ field.type.name ∈ Scalar.names) := by
  have isOf : definition.IsOf index := ShapeIndex.isOf_of_ofIndex made generated
  rw [isOf.entities_eq] at inSchema
  obtain ⟨property, typeName, source, usable, rfl⟩ := exists_sourceOf? inSchema there stands
  have treats := isOf.treats inSchema there usable
  exact ⟨property, source, treats, treats.isScalar_iff⟩

/-! ### Codes that stand for each other -/

/-- The triples of a shape of some local name, whose instances are the same as others of them. -/
def sameTriples (localName : String) : List Triple :=
  let shape := Node.iri ("http://example.org/shapes#" ++ localName)
  let property := Node.blank "b0"
  [Graph.typing shape Shacl.nodeShape,
   ⟨shape, Shacl.targetClass, .iri "http://schema.org/PropertyValue"⟩,
   ⟨shape, Shacl.property, .node property⟩, ⟨property, Shacl.path, .iri "http://schema.org/sameAs"⟩,
   ⟨property, Shacl.valueClass, .iri "http://schema.org/PropertyValue"⟩]

/-- The index of the shape. -/
def sameIndex (localName : String) : ShapeIndex := ShapeIndex.indexOf (sameTriples localName)

/-- The schema of the shape. -/
def sameSchema (localName : String) : Definition := ShapeIndex.schemaOf (sameTriples localName)

/-- The type of an instance. -/
def sameEntity (localName name : String) : ObjectType :=
  ((sameSchema localName).object? name).getD default

/-- The relation of an instance to others. -/
def sameField (localName name : String) : Field :=
  ((sameEntity localName name).field? "sameAs").getD default

/-- Where the shape is one of codes, the relation is taken for a relation. -/
theorem field_kinds_apart_iff_code :
    (sameSchema "CodeShape").TreatsAsRelation (sameEntity "CodeShape" "Code")
      (sameField "CodeShape" "Code") := by
  have facts : sameEntity "CodeShape" "Code" ∈ (sameSchema "CodeShape").entities ∧
      sameField "CodeShape" "Code" ∈ (sameEntity "CodeShape" "Code").fields ∧
      (sameField "CodeShape" "Code").property?.isSome = true ∧
      (sameField "CodeShape" "Code").type.scalar? = none ∧
      ∀ property, sourceOf? (sameIndex "CodeShape") (sameEntity "CodeShape" "Code")
        (sameField "CodeShape" "Code") = some property →
          property.kind = .relation "http://schema.org/PropertyValue" := by
    decide +kernel
  obtain ⟨inSchema, there, stands, entities, kind⟩ := facts
  obtain ⟨property, source, treats, -⟩ := field_kinds_apart_iff
    (ShapeIndex.ofTriples_eq_indexOf (sameTriples "CodeShape"))
    (ShapeIndex.ofIndex_eq_schemaOf (sameTriples "CodeShape")) inSchema there stands
  rw [kind property source] at treats
  cases treats with
  | relation linked type other treated => exact treated
  | mistaken linked type name treated => cases entities.symm.trans treated.type

/-- Where the shape is one of identifiers, the relation is taken for texts: both inputs write it, and the
mutator has no field that changes it. -/
theorem same_taken_for_text :
    ShapeIndex.ofTriples (sameTriples "IDShape") = .ok (sameIndex "IDShape") ∧
    Definition.ofIndex (sameIndex "IDShape") = .ok (sameSchema "IDShape") ∧
    sameEntity "IDShape" "ID" ∈ (sameSchema "IDShape").entities ∧
    sameField "IDShape" "ID" ∈ (sameEntity "IDShape" "ID").fields ∧
    (sourceOf? (sameIndex "IDShape") (sameEntity "IDShape" "ID") (sameField "IDShape" "ID")).map
      PropertyShape.kind = some (.relation "http://schema.org/PropertyValue") ∧
    (sameField "IDShape" "ID").type.scalar? = some .string ∧
    (∀ mutator ∈ (sameSchema "IDShape").objects, mutator.kind = .mutator "ID" →
      mutator.fields.map Field.name = ["delete", "update"]) ∧
    ∀ input ∈ (sameSchema "IDShape").inputs, "sameAs" ∈ input.fields.map InputField.name := by
  refine ⟨ShapeIndex.ofTriples_eq_indexOf _, ShapeIndex.ofIndex_eq_schemaOf _, ?_⟩
  decide +kernel

end LinkedShapes.Schema
