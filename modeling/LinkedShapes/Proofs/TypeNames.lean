import LinkedShapes.Proofs.MutatorFields
import Mathlib.Data.List.Forall2
import Mathlib.Data.List.Nodup

/-!
# The names of object types

The roots, the entities and the mutators of a schema share one set of names, and what is asked of a type is
asked of the first one of its name. An entity is named after the local name of its shape, and its mutator
after the entity; nothing keeps two shapes of one local name apart, nor a shape from the roots and the
mutators. So the types are told apart if and only if the names of the shapes are.

## Main statements

* `nodup_typeNames_iff`: when the roots, some entities and their mutators have different names.
* `Definition.IsOf.classOf?_eq_some_iff`: the class that is found under the name of a shape.
* `Definition.IsOf.tellsApart_iff`: when each shape has a type of its own.
* `object_types_apart_iff`: which shapes graphs have a schema whose object types are told apart.
-/

namespace LinkedShapes.Schema

open Rdf

/-! ### Different names -/

theorem mutatorName_injective : Function.Injective mutatorName := by
  intro first second same
  simpa [mutatorName] using same

/-- No entity has a mutator that is named as the root of queries. -/
theorem mutatorName_ne_queryType (name : String) : mutatorName name ≠ queryType := by
  intro same
  have chars := congrArg (fun text => text.toList.getLast?) same
  simp [mutatorName, queryType, List.getLast?_append] at chars

/-- Only an entity without a name would have a mutator that is named as the root of mutations. -/
theorem mutatorName_ne_mutationType {name : String} (nonempty : name ≠ "") :
    mutatorName name ≠ mutationType := by
  intro same
  have sizes := congrArg (fun text => text.toList.length) same
  simp [mutatorName, mutationType] at sizes
  exact nonempty sizes

/-- The roots, some entities and their mutators have different names if and only if the entities have, and
none of them has the name of a root or of a mutator. -/
theorem nodup_typeNames_iff {names : List String} (nonempty : ∀ name ∈ names, name ≠ "") :
    (queryType :: mutationType :: names ++ names.map mutatorName).Nodup ↔
      names.Nodup ∧ (∀ name ∈ names, name ≠ queryType ∧ name ≠ mutationType) ∧
        ∀ name ∈ names, ∀ other ∈ names, name ≠ mutatorName other := by
  have roots : queryType ≠ mutationType := by decide
  have query : queryType ∉ names.map mutatorName := by
    intro mem
    obtain ⟨name, -, same⟩ := List.mem_map.1 mem
    exact mutatorName_ne_queryType name same
  have mutation : mutationType ∉ names.map mutatorName := by
    intro mem
    obtain ⟨name, there, same⟩ := List.mem_map.1 mem
    exact mutatorName_ne_mutationType (nonempty name there) same
  rw [List.cons_append, List.cons_append, List.nodup_cons, List.nodup_cons, List.nodup_append,
    List.nodup_map_iff mutatorName_injective, List.mem_cons, List.mem_append, List.mem_append]
  constructor
  · rintro ⟨notQuery, notMutation, distinct, -, apart⟩
    refine ⟨distinct, fun name mem => ⟨?_, ?_⟩, fun name mem other there => ?_⟩
    · rintro rfl
      exact notQuery (Or.inr (Or.inl mem))
    · rintro rfl
      exact notMutation (Or.inl mem)
    · exact apart name mem _ (List.mem_map.2 ⟨other, there, rfl⟩)
  · rintro ⟨distinct, notRoot, apart⟩
    refine ⟨?_, ?_, distinct, distinct, fun name mem other there => ?_⟩
    · rintro (same | mem | mem)
      · exact roots same
      · exact (notRoot _ mem).1 rfl
      · exact query mem
    · rintro (mem | mem)
      · exact (notRoot _ mem).2 rfl
      · exact mutation mem
    · obtain ⟨entity, inNames, rfl⟩ := List.mem_map.1 there
      exact apart name mem entity inNames

/-! ### Types and their shapes -/

/-- The names of the shapes of an index differ from each other, from the names of the roots and from those
of the mutators. -/
structure NamesApart (index : ShapeIndex) : Prop where
  /-- Each shape has a name of its own. -/
  shapes : (index.shapes.map NodeShape.name).Nodup
  /-- No shape has the name of a root. -/
  roots : ∀ shape ∈ index.shapes, shape.name ≠ queryType ∧ shape.name ≠ mutationType
  /-- No shape has the name of the mutator of another one. -/
  mutators : ∀ shape ∈ index.shapes, ∀ other ∈ index.shapes, shape.name ≠ mutatorName other.name

/-- A type has the name and the class of a shape. -/
def Represents (type : ObjectType) (shape : NodeShape) : Prop :=
  type.name = shape.name ∧ type.cls = shape.targetClass

/-- A field of an entity type stands for a property of its shape, whose values are instances of a class. -/
def RelatesTo (index : ShapeIndex) (type : ObjectType) (field : Field) (cls : String) : Prop :=
  ∃ shape property target, index.named? type.name = some shape ∧ property ∈ shape.properties ∧
    property.kind = .relation cls ∧ index.forClass? cls = some target ∧
    field = propertyField property target.name

/-- The object types of a definition are told apart by their names, and each shape of an index is represented
by one of its own. -/
structure Definition.TellsApart (definition : Definition) (index : ShapeIndex) : Prop where
  /-- Each object type has a name of its own. -/
  names : (definition.objects.map ObjectType.name).Nodup
  /-- There is one entity type for each shape, with its target class. -/
  entities : List.Forall₂ Represents definition.entities index.shapes
  /-- The class of the type of a relation is the one that its property states. -/
  classes : ∀ type ∈ definition.entities, ∀ field ∈ type.fields, ∀ cls,
    RelatesTo index type field cls → definition.classOf? field.type.name = some cls

section Types

variable {index : ShapeIndex} {definition : Definition} {type : ObjectType} {shape : NodeShape}
  {field : Field} {cls name : String}

/-- The entity types have the names of the shapes. -/
theorem map_name_entitiesOf (index : ShapeIndex) :
    (entitiesOf index).map ObjectType.name = index.shapes.map NodeShape.name := by
  rw [entitiesOf, List.map_map]
  exact List.map_congr_left fun shape mem => name_of_entityNamed? (entityNamed?_of_mem mem)

theorem Definition.IsOf.entities_eq (isOf : definition.IsOf index) :
    definition.entities = entitiesOf index := by
  have entity : (entitiesOf index).filter (·.kind = .entity) = entitiesOf index :=
    List.filter_eq_self.2 fun type mem => decide_eq_true (kind_of_mem_entitiesOf mem)
  have mutator : ((entitiesOf index).map (mutatorOf index)).filter (·.kind = .entity) = [] := by
    rw [List.filter_eq_nil_iff]
    intro type mem
    obtain ⟨entity, -, rfl⟩ := List.mem_map.1 mem
    simp [mutatorOf]
  rw [Definition.entities, isOf.objects, List.filter_append, mutator, List.append_nil]
  exact entity

/-- The object types are named after the shapes. -/
theorem Definition.IsOf.map_name_objects (isOf : definition.IsOf index) :
    definition.objects.map ObjectType.name = queryType :: mutationType ::
      index.shapes.map NodeShape.name ++ (index.shapes.map NodeShape.name).map mutatorName := by
  rw [isOf.objects, ← map_name_entitiesOf, List.map_append, List.map_map, List.map_map]
  rfl

/-- The object types have different names if and only if the shapes have, as well as the roots and the
mutators. -/
theorem Definition.IsOf.nodup_objects_iff (isOf : definition.IsOf index)
    (nonempty : ∀ shape ∈ index.shapes, shape.name ≠ "") :
    (definition.objects.map ObjectType.name).Nodup ↔ NamesApart index := by
  have named : ∀ name ∈ index.shapes.map NodeShape.name, name ≠ "" := by
    intro name mem
    obtain ⟨shape, there, rfl⟩ := List.mem_map.1 mem
    exact nonempty shape there
  rw [isOf.map_name_objects, nodup_typeNames_iff named]
  simp only [List.forall_mem_map]
  constructor
  · rintro ⟨shapes, roots, mutators⟩
    exact ⟨shapes, roots, mutators⟩
  · rintro ⟨shapes, roots, mutators⟩
    exact ⟨shapes, roots, mutators⟩

/-- Each shape has a type of its name and class if and only if shapes of one name have one class. -/
theorem Definition.IsOf.represents_iff (isOf : definition.IsOf index) :
    List.Forall₂ Represents definition.entities index.shapes ↔
      ∀ shape ∈ index.shapes, ∀ other ∈ index.shapes,
        shape.name = other.name → shape.targetClass = other.targetClass := by
  -- the type of a shape is made of the first shape of its name
  have made {shape first : NodeShape} (named : index.named? shape.name = some first)
      (same : first.name = shape.name) :
      Represents (entityType index ((index.named? shape.name).getD shape)) shape ↔
        first.targetClass = shape.targetClass := by
    rw [named]
    exact and_iff_right same
  rw [isOf.entities_eq, entitiesOf, List.forall₂_map_left_iff, List.forall₂_same]
  constructor
  · intro all shape mem other there same
    obtain ⟨first, -, named, name⟩ := exists_named?_of_mem mem
    have first' : index.named? other.name = some first := same ▸ named
    exact ((made named name).1 (all shape mem)).symm.trans
      ((made first' (name.trans same)).1 (all other there))
  · intro all shape mem
    obtain ⟨first, there, named, name⟩ := exists_named?_of_mem mem
    exact (made named name).2 (all first there shape mem name)

/-- The class that is found under the name of a shape is that of the first shape of the name, unless a root
is found instead. -/
theorem Definition.IsOf.classOf?_eq_some_iff (isOf : definition.IsOf index)
    (named : index.named? name = some shape) :
    definition.classOf? name = some cls ↔
      name ≠ queryType ∧ name ≠ mutationType ∧ shape.targetClass = some cls := by
  by_cases query : name = queryType
  · subst query
    simp [Definition.classOf?, isOf.object?_queryType, queryOf]
  by_cases mutation : name = mutationType
  · subst mutation
    simp [Definition.classOf?, isOf.object?_mutationType, mutationOf]
  have known : entityNamed? index name = some (entityType index shape) := by
    rw [entityNamed?, named, Option.map_some]
  have same : (entityType index shape).name = name := name_of_entityNamed? known
  have found : definition.object? name = some (entityType index shape) := by
    have mem : entityType index shape ∈ entitiesOf index := mem_entitiesOf.2 (same.symm ▸ known)
    have there := Resolution.object?_of_mem_entitiesOf isOf mem (same.symm ▸ query)
      (same.symm ▸ mutation)
    rwa [same] at there
  simp [Definition.classOf?, found, entityType, query, mutation]

/-- A relation of an entity stands for a property with a class. -/
theorem exists_relatesTo (mem : type ∈ entitiesOf index) (there : field ∈ type.fields)
    (isRelation : field.isRelation = true) : ∃ cls, RelatesTo index type field cls := by
  obtain ⟨shape, named, rfl⟩ := Option.map_eq_some_iff.1 (mem_entitiesOf.1 mem)
  obtain ⟨property, stated, cls, target, kind, found, rfl⟩ := exists_relation_of_mem there isRelation
  exact ⟨cls, shape, property, target, named, stated, kind, found, rfl⟩

end Types

/-! ### Schemas of shapes graphs -/

section Graphs

variable {triples : List Triple} {index : ShapeIndex} {definition : Definition} {type : ObjectType}
  {field : Field} {cls : String}

/-- The class of a relation is found if and only if the first shape of the name of its type has it, and
no root has the name. -/
theorem Definition.IsOf.classOf?_of_relatesTo (made : ShapeIndex.ofTriples triples = .ok index)
    (isOf : definition.IsOf index) (relates : RelatesTo index type field cls) :
    definition.classOf? field.type.name = some cls ↔
      field.type.name ≠ queryType ∧ field.type.name ≠ mutationType ∧
        ∃ first, index.named? field.type.name = some first ∧ first.targetClass = some cls := by
  obtain ⟨-, property, target, -, -, -, found, rfl⟩ := relates
  obtain ⟨mem, -⟩ := ShapeIndex.mem_of_forClass? made found
  obtain ⟨first, -, named, -⟩ := exists_named?_of_mem mem
  rw [name_type_propertyField, isOf.classOf?_eq_some_iff named, named]
  simp

/-- Each shape has a type of its own if and only if the names of the shapes are told apart. -/
theorem Definition.IsOf.tellsApart_iff (made : ShapeIndex.ofTriples triples = .ok index)
    (isOf : definition.IsOf index) (nonempty : ∀ shape ∈ index.shapes, shape.name ≠ "") :
    definition.TellsApart index ↔ NamesApart index := by
  constructor
  · intro apart
    exact (isOf.nodup_objects_iff nonempty).1 apart.names
  · intro apart
    -- a shape is the only one of its name
    have own {shape other : NodeShape} (mem : shape ∈ index.shapes) (there : other ∈ index.shapes)
        (same : shape.name = other.name) : shape = other :=
      List.inj_on_of_nodup_map apart.shapes mem there same
    refine ⟨(isOf.nodup_objects_iff nonempty).2 apart, isOf.represents_iff.2 ?_, ?_⟩
    · intro shape mem other there same
      rw [own mem there same]
    · intro type _ field _ cls relates
      refine (isOf.classOf?_of_relatesTo made relates).2 ?_
      obtain ⟨-, property, target, -, -, -, found, rfl⟩ := relates
      obtain ⟨mem, stated⟩ := ShapeIndex.mem_of_forClass? made found
      obtain ⟨first, there, named, same⟩ := exists_named?_of_mem mem
      obtain rfl := own there mem same
      rw [name_type_propertyField]
      exact ⟨(apart.roots _ mem).1, (apart.roots _ mem).2, first, named, stated⟩

/-- No shape has an empty name. -/
theorem name_ne_empty (made : ShapeIndex.ofTriples triples = .ok index) {shape : NodeShape}
    (mem : shape ∈ index.shapes) : shape.name ≠ "" := by
  obtain ⟨text, name⟩ := ShapeIndex.exists_name_eq made mem
  rw [name]
  refine Text.capitalize_ne_empty ?_
  rw [String.toList_ofList]
  exact Shape.sanitize_ne_nil text

end Graphs

/-- There is one shape for each node that is stated to be one, and the types of a schema are told apart if
and only if the names of the shapes differ, from each other as well as from the roots and the mutators.
Where they do not, a shape has no type of its class if another class is that of its name, and the class of
a relation is not found if a root or another shape is found under the name. -/
theorem object_types_apart_iff (triples : List Triple) :
    ∃ index definition, ShapeIndex.ofTriples triples = .ok index ∧
      Definition.ofIndex index = .ok definition ∧
      (index.shapes.map NodeShape.id).Nodup ∧
      (∀ node, node ∈ index.shapes.map NodeShape.id ↔
        Graph.typing node Shacl.nodeShape ∈ triples) ∧
      (definition.TellsApart index ↔ NamesApart index) ∧
      ((definition.objects.map ObjectType.name).Nodup ↔ NamesApart index) ∧
      (List.Forall₂ Represents definition.entities index.shapes ↔
        ∀ shape ∈ index.shapes, ∀ other ∈ index.shapes,
          shape.name = other.name → shape.targetClass = other.targetClass) ∧
      ∀ type ∈ definition.entities, ∀ field ∈ type.fields,
        (field.isRelation = true → ∃ cls, RelatesTo index type field cls) ∧
        ∀ cls, RelatesTo index type field cls →
          (definition.classOf? field.type.name = some cls ↔
            field.type.name ≠ queryType ∧ field.type.name ≠ mutationType ∧
              ∃ first, index.named? field.type.name = some first ∧
                first.targetClass = some cls) := by
  obtain ⟨index, definition, made, generated, isOf⟩ := ShapeIndex.exists_schema triples
  have nonempty : ∀ shape ∈ index.shapes, shape.name ≠ "" := fun shape => name_ne_empty made
  refine ⟨index, definition, made, generated, ShapeIndex.nodup_ids made, ShapeIndex.mem_ids_iff made,
    isOf.tellsApart_iff made nonempty, isOf.nodup_objects_iff nonempty, isOf.represents_iff,
    fun type mem field there => ⟨exists_relatesTo ?_ there, fun cls => isOf.classOf?_of_relatesTo made⟩⟩
  rwa [isOf.entities_eq] at mem

/-! ### Searches -/

/-- The triples of a shape of searches, whose actions are searches. The local name of the shape is that of
the root of queries. -/
def searchTriples : List Triple :=
  let shape := Node.iri "http://example.org/shapes#QueryShape"
  let property := Node.blank "b0"
  [Graph.typing shape Shacl.nodeShape,
   ⟨shape, Shacl.targetClass, .iri "http://schema.org/SearchAction"⟩,
   ⟨shape, Shacl.property, .node property⟩,
   ⟨property, Shacl.path, .iri "http://schema.org/potentialAction"⟩,
   ⟨property, Shacl.valueClass, .iri "http://schema.org/SearchAction"⟩]

/-- The index of the shape. -/
def searchIndex : ShapeIndex := ShapeIndex.indexOf searchTriples

/-- The schema of the shape. -/
def searchSchema : Definition := ShapeIndex.schemaOf searchTriples

/-- The type of searches has the name of the root of queries, and the class of the actions of a search is not
found under it. -/
theorem search_not_apart :
    ShapeIndex.ofTriples searchTriples = .ok searchIndex ∧
      Definition.ofIndex searchIndex = .ok searchSchema ∧
      ¬ (searchSchema.objects.map ObjectType.name).Nodup ∧
      ∃ type ∈ searchSchema.entities, ∃ field ∈ type.fields,
        RelatesTo searchIndex type field "http://schema.org/SearchAction" ∧
        searchSchema.classOf? field.type.name = none := by
  have made := ShapeIndex.ofTriples_eq_indexOf searchTriples
  have generated := ShapeIndex.ofIndex_eq_schemaOf searchTriples
  have isOf : searchSchema.IsOf searchIndex := ShapeIndex.isOf_of_ofIndex made generated
  have facts : ¬ (searchSchema.objects.map ObjectType.name).Nodup ∧
      (∃ type ∈ searchSchema.entities, ∃ field ∈ type.fields,
        field.isRelation = true ∧ searchSchema.classOf? field.type.name = none) ∧
      ∀ shape ∈ searchIndex.shapes, ∀ property ∈ shape.properties,
        property.kind = .relation "http://schema.org/SearchAction" := by
    decide +kernel
  obtain ⟨repeated, ⟨type, mem, field, there, isRelation, unknown⟩, searches⟩ := facts
  refine ⟨made, generated, repeated, type, mem, field, there, ?_, unknown⟩
  rw [isOf.entities_eq] at mem
  obtain ⟨cls, relates⟩ := exists_relatesTo mem there isRelation
  have same : cls = "http://schema.org/SearchAction" := by
    obtain ⟨shape, property, -, named, stated, kind, -⟩ := relates
    have search := searches shape (List.mem_of_find?_eq_some named) property stated
    rw [kind] at search
    exact ValueKind.relation.inj search
  rwa [same] at relates

end LinkedShapes.Schema
