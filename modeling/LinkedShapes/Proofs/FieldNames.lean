import LinkedShapes.GraphQL.TypeSystem
import LinkedShapes.Proofs.References
import LinkedShapes.Proofs.TypeNames
import Mathlib.Data.List.Nodup
import Mathlib.Data.List.Perm.Basic

/-!
# The names of fields

The fields of a type are looked up by their names, and a type with two fields of one name makes no type
system. The fields of an entity and the inputs of its update are told apart by what is taken when they are
made. Nothing is taken when the other fields are made: the query for the collection of an entity may have
the name of the query for another entity, two relations may differ in their first letter alone, which a
mutator puts in upper case, and a property may be named as the slug that an input of creation asks for.
Nothing else can go wrong while the shapes have different names.

## Main statements

* `nodup_queryNames_iff`, `nodup_mutatorFields_iff`, `nodup_createInput_iff`: when the queries, the fields of
  a mutator and those of an input of creation have different names.
* `field_names_apart_iff`: which schemas have a type with two fields of one name.
-/

namespace LinkedShapes.Text

variable {name : String}

theorem capitalize_append (nonempty : name ≠ "") (suffix : String) :
    capitalize (name ++ suffix) = capitalize name ++ suffix := by
  unfold capitalize
  rw [String.toList_append]
  cases chars : name.toList with
  | nil => exact absurd (String.toList_eq_nil_iff.1 chars) nonempty
  | cons c rest => exact String.toList_inj.1 (by simp)

theorem decapitalize_append (nonempty : name ≠ "") (suffix : String) :
    decapitalize (name ++ suffix) = decapitalize name ++ suffix := by
  unfold decapitalize
  rw [String.toList_append]
  cases chars : name.toList with
  | nil => exact absurd (String.toList_eq_nil_iff.1 chars) nonempty
  | cons c rest => exact String.toList_inj.1 (by simp)

theorem lowerChars_ne_nil (c : Char) : lowerChars c ≠ [] := by
  unfold lowerChars
  split
  · exact List.cons_ne_nil _ _
  · split
    · exact List.cons_ne_nil _ _
    · split <;> exact List.cons_ne_nil _ _

theorem decapitalize_ne_empty (nonempty : name ≠ "") : decapitalize name ≠ "" := by
  unfold decapitalize
  cases chars : name.toList with
  | nil => exact absurd (String.toList_eq_nil_iff.1 chars) nonempty
  | cons c rest =>
    intro empty
    have none : lowerChars c ++ rest = [] := by simpa using congrArg String.toList empty
    exact lowerChars_ne_nil c (List.append_eq_nil_iff.1 none).1

theorem ascii_of_isNameChar {c : Char} (named : Shape.isNameChar c = true) : c.toNat < 128 := by
  -- the letters and the digits are ranges of characters, each of which ends before 128
  have upTo (last : Char) (small : last.toNat < 128) (le : c.val ≤ last.val) : c.toNat < 128 := by
    have le : c.toNat ≤ last.toNat := UInt32.le_iff_toNat_le.1 le
    omega
  rcases Bool.or_eq_true_iff.1 named with alphanum | underscore
  · rcases Bool.or_eq_true_iff.1 alphanum with alpha | digit
    · rcases Bool.or_eq_true_iff.1 alpha with upper | lower
      · exact upTo 'Z' (by decide) (of_decide_eq_true upper).2
      · exact upTo 'z' (by decide) (of_decide_eq_true (Bool.and_eq_true_iff.1 lower).2)
    · exact upTo '9' (by decide) (of_decide_eq_true (Bool.and_eq_true_iff.1 digit).2)
  · rw [of_decide_eq_true underscore]
    decide

/-- The capital letter at the start of a name can be put back. -/
theorem capitalize_decapitalize_sanitize (text : List Char) :
    capitalize (decapitalize (capitalize (String.ofList (Shape.sanitize text)))) =
      capitalize (String.ofList (Shape.sanitize text)) := by
  rw [decapitalize_capitalize]
  cases chars : Shape.sanitize text with
  | nil => exact absurd chars (Shape.sanitize_ne_nil text)
  | cons c rest =>
    have mem : c ∈ Shape.sanitize text := by
      rw [chars]
      exact List.mem_cons_self
    have ascii : c.toNat < 128 := ascii_of_isNameChar (Shape.isNameChar_of_mem_sanitize mem)
    have cased : ∀ n : Fin 128, (Char.ofNat n).toLower.toUpper = (Char.ofNat n).toUpper := by decide
    have same := cased ⟨c.toNat, ascii⟩
    simp only [Char.ofNat_toNat] at same
    rw [decapitalize_ofList_cons, lowerChars_of_ascii ascii, List.singleton_append,
      capitalize_ofList_cons, capitalize_ofList_cons, same]

end LinkedShapes.Text

namespace LinkedShapes.Schema

open Rdf

/-! ### Queries and mutations -/

section Roots

variable {names : List String}

/-- Two fields are made for each name. They are all different if and only if the names are and no first
field has the name of a second one. -/
theorem nodup_flatMap_pair {first second : String → String}
    (first_injOn : ∀ name ∈ names, ∀ other ∈ names, first name = first other → name = other)
    (second_injOn : ∀ name ∈ names, ∀ other ∈ names, second name = second other → name = other) :
    (names.flatMap fun name => [first name, second name]).Nodup ↔
      names.Nodup ∧ ∀ name ∈ names, ∀ other ∈ names, first name ≠ second other := by
  have reordered : (names.map first ++ names.map second).Perm
      (names.flatMap fun name => [first name, second name]) := by
    have perm := List.map_append_flatMap_perm names first fun name => [second name]
    rwa [← List.map_eq_flatMap] at perm
  rw [← reordered.nodup_iff, List.nodup_append]
  constructor
  · rintro ⟨distinct, -, apart⟩
    refine ⟨distinct.of_map first, fun name mem other there => ?_⟩
    exact apart _ (List.mem_map.2 ⟨name, mem, rfl⟩) _ (List.mem_map.2 ⟨other, there, rfl⟩)
  · rintro ⟨distinct, apart⟩
    refine ⟨distinct.map_on first_injOn, distinct.map_on second_injOn, ?_⟩
    intro field mem field' there
    obtain ⟨name, inNames, rfl⟩ := List.mem_map.1 mem
    obtain ⟨other, inNames', rfl⟩ := List.mem_map.1 there
    exact apart name inNames other inNames'

/-- The names of entities are not empty and start with a letter that can be put back in upper case. -/
def Capitalised (names : List String) : Prop :=
  ∀ name ∈ names, name ≠ "" ∧ Text.capitalize (Text.decapitalize name) = name

/-- The query for the collection of an entity has the name of the query for another one if and only if the
name of the other one ends in the same word. -/
theorem nodup_queryNames_iff (named : Capitalised names) :
    (names.flatMap fun name =>
        [Text.decapitalize name, Text.decapitalize name ++ "Collection"]).Nodup ↔
      names.Nodup ∧ ∀ name ∈ names, ∀ other ∈ names, name ≠ other ++ "Collection" := by
  have lower {name other : String} (mem : name ∈ names) (there : other ∈ names)
      (same : Text.decapitalize name = Text.decapitalize other) : name = other := by
    rw [← (named name mem).2, same, (named other there).2]
  rw [nodup_flatMap_pair (fun name mem other there => lower mem there)
    fun name mem other there same => lower mem there ((String.append_left_inj _).1 same)]
  refine and_congr_right fun _ => forall₂_congr fun name mem => forall₂_congr fun other there => ?_
  -- the letter at the start makes no difference to the word at the end
  refine not_congr ⟨fun same => ?_, fun same => ?_⟩
  · have nonempty := Text.decapitalize_ne_empty (named other there).1
    rw [← (named name mem).2, same, Text.capitalize_append nonempty, (named other there).2]
  · rw [same, Text.decapitalize_append (named other there).1]

theorem nodup_mutationNames_iff :
    (names.flatMap fun name => ["create" ++ name, "mutate" ++ name]).Nodup ↔ names.Nodup := by
  have verbs (name other : String) : "create" ++ name ≠ "mutate" ++ other := by
    intro same
    simpa using congrArg (fun text => text.toList.head?) same
  rw [nodup_flatMap_pair]
  · exact and_iff_left fun name _ other _ => verbs name other
  · intro name _ other _ same
    simpa using same
  · intro name _ other _ same
    simpa using same

end Roots

/-! ### Mutators -/

/-- The relations of an entity still have different names once the names are capitalised. -/
def ObjectType.RelationsApart (entity : ObjectType) : Prop :=
  ((entity.fields.filter Field.isRelation).map fun relation =>
    Text.capitalize relation.name).Nodup

instance (entity : ObjectType) : Decidable entity.RelationsApart :=
  inferInstanceAs (Decidable (List.Nodup _))

section Mutators

open Resolution (changesOf mutatorField ofName_mutatorField)

variable {index : ShapeIndex} {entity : ObjectType} {relation other : Field}

/-- The names of the fields that change a relation. -/
def changeNames (returned : TypeExpr) (relation : Field) : List String :=
  (changesOf relation).map fun change => (mutatorField returned relation change).name

theorem map_name_mutatorFields (index : ShapeIndex) (entity : ObjectType) :
    (mutatorFields index entity).map Field.name =
      ("delete" :: (updateFields index entity).map Field.name) ++
        (entity.fields.filter Field.isRelation).flatMap (changeNames (returnedBy entity)) := by
  have changes (relation : Field) : (relationMutatorsOf (returnedBy entity) relation).map Field.name =
      changeNames (returnedBy entity) relation := by
    rw [Resolution.relationMutatorsOf_eq, List.map_map]
    rfl
  rw [mutatorFields, relationFields, List.map_append, List.map_flatten, List.map_map, List.map_cons,
    List.flatMap_def]
  simp only [Function.comp_def, changes]

theorem nodup_changeNames (returned : TypeExpr) (nonempty : relation.name.toList ≠ []) :
    (changeNames returned relation).Nodup := by
  have changes : (changesOf relation).Nodup := by
    unfold changesOf
    split <;> decide
  refine changes.map fun first second same => ?_
  have kinds := congrArg Resolution.MutationKind.ofName same
  rw [ofName_mutatorField returned nonempty, ofName_mutatorField returned nonempty] at kinds
  simpa using kinds

/-- Two relations are changed by fields of different names if and only if their capitalised names are
different. -/
theorem disjoint_changeNames_iff (returned : TypeExpr) (nonempty : relation.name.toList ≠ [])
    (nonempty' : other.name.toList ≠ []) :
    (changeNames returned relation).Disjoint (changeNames returned other) ↔
      Text.capitalize relation.name ≠ Text.capitalize other.name := by
  constructor
  · intro apart same
    have link (relation : Field) :
        "link" ++ Text.capitalize relation.name ∈ changeNames returned relation :=
      List.mem_map.2 ⟨.link, by simp [changesOf], rfl⟩
    exact apart (link relation) (same ▸ link other)
  · intro differ name mem mem'
    obtain ⟨change, -, rfl⟩ := List.mem_map.1 mem
    obtain ⟨change', -, same⟩ := List.mem_map.1 mem'
    -- what is taken off a name is the verb, so that the relations have one capitalised name
    have taken := congrArg Resolution.MutationKind.ofName same
    rw [ofName_mutatorField returned nonempty, ofName_mutatorField returned nonempty'] at taken
    exact differ (congrArg Prod.snd taken).symm

/-- The fields of a mutator are different if and only if the relations are, once they are capitalised. -/
theorem nodup_mutatorFields_iff
    (named : ∀ relation ∈ entity.fields, relation.isRelation = true → relation.name.toList ≠ []) :
    ((mutatorFields index entity).map Field.name).Nodup ↔ entity.RelationsApart := by
  have nonempty {relation : Field} (mem : relation ∈ entity.fields.filter Field.isRelation) :
      relation.name.toList ≠ [] :=
    named relation (List.mem_filter.1 mem).1 (List.mem_filter.1 mem).2
  have own : ("delete" :: (updateFields index entity).map Field.name).Nodup := by
    unfold updateFields
    split <;> simp
  -- a verb with a relation is neither of the names without one
  have unlike : ∀ name ∈ "delete" :: (updateFields index entity).map Field.name,
      ∀ changed ∈ (entity.fields.filter Field.isRelation).flatMap
        (changeNames (returnedBy entity)), name ≠ changed := by
    obtain ⟨notDelete, others⟩ := List.pairwise_cons.1 Resolution.pairwise_apart_verbs
    obtain ⟨notUpdate, -⟩ := List.pairwise_cons.1 others
    intro name mem changed there
    obtain ⟨relation, -, there⟩ := List.mem_flatMap.1 there
    obtain ⟨change, -, rfl⟩ := List.mem_map.1 there
    have verb : change.verb ∈ Resolution.verbs.map Prod.fst :=
      List.mem_map.2 ⟨_, change.mem_verbs, rfl⟩
    rcases List.mem_cons.1 mem with rfl | mem
    · exact ((notDelete _ (List.mem_cons_of_mem _ verb)).ne_append _).symm
    · obtain ⟨field, updates, rfl⟩ := List.mem_map.1 mem
      rw [Resolution.eq_of_mem_updateFields updates]
      exact ((notUpdate _ verb).ne_append _).symm
  rw [map_name_mutatorFields, List.nodup_append, List.nodup_flatMap, ObjectType.RelationsApart,
    List.Nodup, List.pairwise_map]
  constructor
  · rintro ⟨-, ⟨-, apart⟩, -⟩
    exact apart.imp_of_mem fun mem there =>
      (disjoint_changeNames_iff _ (nonempty mem) (nonempty there)).1
  · intro apart
    refine ⟨own, ⟨fun relation mem => nodup_changeNames _ (nonempty mem), ?_⟩, unlike⟩
    exact apart.imp_of_mem fun mem there =>
      (disjoint_changeNames_iff _ (nonempty mem) (nonempty there)).2

end Mutators

/-! ### Inputs -/

section Inputs

variable {index : ShapeIndex} {entity : ObjectType}

/-- No scalar property of an entity has the name of the slug. -/
def ObjectType.LacksSlug (entity : ObjectType) : Prop :=
  ∀ field ∈ entity.fields, field.isScalarProperty = true → field.name ≠ slugField

instance (entity : ObjectType) : Decidable entity.LacksSlug :=
  inferInstanceAs (Decidable (∀ field ∈ entity.fields, _ → _))

theorem map_name_scalarInputs (index : ShapeIndex) (entity : ObjectType) :
    (scalarInputs index entity).map InputField.name =
      (entity.fields.filter Field.isScalarProperty).map Field.name := by
  rw [scalarInputs, List.map_map]
  rfl

/-- The inputs that write the scalar fields of an entity have different names. -/
theorem nodup_scalarInputs (mem : entity ∈ entitiesOf index) :
    ((scalarInputs index entity).map InputField.name).Nodup := by
  obtain ⟨shape, -, rfl⟩ := List.mem_map.1 mem
  rw [map_name_scalarInputs]
  exact (nodup_entityType index _).sublist (List.filter_sublist.map _)

theorem nodup_updateInput (mem : entity ∈ entitiesOf index) :
    ((updateInputOf index entity).fields.map InputField.name).Nodup := by
  rw [updateInputOf, List.map_map]
  exact nodup_scalarInputs mem

/-- No scalar property of an entity has the name of the identifier. -/
theorem name_ne_identifierField (mem : entity ∈ entitiesOf index) {field : Field}
    (there : field ∈ entity.fields) (isScalar : field.isScalarProperty = true) :
    field.name ≠ identifierField := by
  obtain ⟨shape, -, rfl⟩ := List.mem_map.1 mem
  obtain ⟨fresh, -⟩ := List.nodup_cons.1 (nodup_entityType index _)
  rcases List.mem_cons.1 there with rfl | there
  · cases isScalar
  · intro same
    exact fresh (List.mem_map.2 ⟨field, there, same⟩)

/-- The fields of an input of creation are different if and only if no property has the name of the slug. -/
theorem nodup_createInput_iff (mem : entity ∈ entitiesOf index) :
    ((createInputOf index entity).fields.map InputField.name).Nodup ↔ entity.LacksSlug := by
  have asked : [identifierField, slugField].Nodup := by decide
  have written {name : String} : name ∈ (scalarInputs index entity).map InputField.name ↔
      ∃ field ∈ entity.fields, field.isScalarProperty = true ∧ field.name = name := by
    simp only [map_name_scalarInputs, List.mem_map, List.mem_filter, and_assoc]
  rw [createInputOf, List.map_append, List.nodup_append]
  constructor
  · rintro ⟨-, -, apart⟩ field there isScalar
    exact apart _ (written.2 ⟨field, there, isScalar, rfl⟩) slugField (by simp)
  · intro lacks
    refine ⟨nodup_scalarInputs mem, asked, fun name named own there => ?_⟩
    obtain ⟨field, inFields, isScalar, rfl⟩ := written.1 named
    simp only [List.map_cons, List.map_nil, List.mem_cons, List.not_mem_nil, or_false] at there
    rcases there with rfl | rfl
    · exact name_ne_identifierField mem inFields isScalar
    · exact lacks field inFields isScalar

end Inputs

/-! ### Whole schemas -/

/-- No entity has the name of another one with the word for a collection. -/
def Definition.CollectionsApart (definition : Definition) : Prop :=
  ∀ entity ∈ definition.entities, ∀ other ∈ definition.entities,
    entity.name ≠ other.name ++ "Collection"

instance (definition : Definition) : Decidable definition.CollectionsApart :=
  inferInstanceAs (Decidable (∀ entity ∈ definition.entities, ∀ other ∈ definition.entities, _))

section Schemas

variable {triples : List Triple} {index : ShapeIndex} {definition : Definition}
  {entity other type : ObjectType} {input : InputType}

/-- The entity types of a schema are told apart by their names. -/
theorem eq_of_mem_entitiesOf (mem : entity ∈ entitiesOf index) (there : other ∈ entitiesOf index)
    (same : entity.name = other.name) : entity = other := by
  have known := mem_entitiesOf.1 mem
  rw [same, mem_entitiesOf.1 there] at known
  exact (Option.some.inj known).symm

theorem capitalised_names (made : ShapeIndex.ofTriples triples = .ok index) :
    Capitalised (index.shapes.map NodeShape.name) := by
  intro name mem
  obtain ⟨shape, there, rfl⟩ := List.mem_map.1 mem
  obtain ⟨text, same⟩ := ShapeIndex.exists_name_eq made there
  refine ⟨name_ne_empty made there, ?_⟩
  rw [same]
  exact Text.capitalize_decapitalize_sanitize text

/-- The queries for entities of different names have different names if and only if no query for a
collection has the name of a query for an entity. -/
theorem Definition.IsOf.nodup_queryOf_iff (made : ShapeIndex.ofTriples triples = .ok index)
    (isOf : definition.IsOf index) (distinct : (index.shapes.map NodeShape.name).Nodup) :
    ((queryOf index).fields.map Field.name).Nodup ↔ definition.CollectionsApart := by
  have names : (queryOf index).fields.map Field.name =
      (index.shapes.map NodeShape.name).flatMap fun name =>
        [Text.decapitalize name, Text.decapitalize name ++ "Collection"] := by
    rw [← map_name_entitiesOf, List.flatMap_map, queryOf, List.map_flatMap]
    rfl
  rw [names, nodup_queryNames_iff (capitalised_names made), and_iff_right distinct,
    Definition.CollectionsApart, isOf.entities_eq, ← map_name_entitiesOf]
  simp only [List.forall_mem_map]

theorem nodup_mutationOf (distinct : (index.shapes.map NodeShape.name).Nodup) :
    ((mutationOf index).fields.map Field.name).Nodup := by
  have names : (mutationOf index).fields.map Field.name =
      (index.shapes.map NodeShape.name).flatMap fun name => ["create" ++ name, "mutate" ++ name] := by
    rw [← map_name_entitiesOf, List.flatMap_map, mutationOf, List.map_flatMap]
    rfl
  rw [names]
  exact nodup_mutationNames_iff.2 distinct

/-- The fields of an object type have different names if and only if what its fields are named after is told
apart: the collections for the root of queries, and the relations for a mutator. -/
theorem Definition.IsOf.nodup_objectFields_iff (made : ShapeIndex.ofTriples triples = .ok index)
    (isOf : definition.IsOf index) (distinct : (index.shapes.map NodeShape.name).Nodup)
    (mem : type ∈ definition.objects) :
    (type.fields.map Field.name).Nodup ↔
      (type.kind = .root → type.name = queryType → definition.CollectionsApart) ∧
        ∀ entity ∈ definition.entities, type.kind = .mutator entity.name →
          entity.RelationsApart := by
  rcases isOf.mem_objects_iff.1 mem with rfl | rfl | inSchema | ⟨entity, inSchema, rfl⟩
  · rw [isOf.nodup_queryOf_iff made distinct]
    simp [queryOf]
  · have roots : mutationType ≠ queryType := by decide
    refine iff_of_true (nodup_mutationOf distinct) ⟨fun _ query => absurd query roots, ?_⟩
    intro entity _ kind
    cases kind
  · obtain ⟨shape, -, rfl⟩ := List.mem_map.1 inSchema
    refine iff_of_true (nodup_entityType index _) ⟨fun kind => ?_, fun entity _ kind => ?_⟩
    · cases kind
    · cases kind
  · rw [mutatorOf, nodup_mutatorFields_iff fun relation there isRelation =>
      Resolution.name_ne_nil_of_relation made inSchema there isRelation, isOf.entities_eq]
    constructor
    · intro apart
      refine ⟨fun kind => ?_, fun other there kind => ?_⟩
      · cases kind
      · rwa [eq_of_mem_entitiesOf there inSchema (ObjectKind.mutator.inj kind).symm]
    · rintro ⟨-, apart⟩
      exact apart entity inSchema rfl

/-- The fields of an input type have different names if and only if it is not the one of the creation of an
entity with a property that is named as the slug. -/
theorem Definition.IsOf.nodup_inputFields_iff (isOf : definition.IsOf index)
    (mem : input ∈ definition.inputs) :
    (input.fields.map InputField.name).Nodup ↔
      ∀ entity ∈ definition.entities, input.name = createInputName entity.name →
        entity.LacksSlug := by
  rw [isOf.entities_eq]
  obtain ⟨entity, inSchema, rfl | rfl⟩ := isOf.inputs input mem
  · rw [nodup_createInput_iff inSchema]
    constructor
    · intro lacks other there same
      rwa [eq_of_mem_entitiesOf there inSchema (createInputName_injective same).symm]
    · intro lacks
      exact lacks entity inSchema rfl
  · refine iff_of_true (nodup_updateInput inSchema) fun other _ same => ?_
    exact absurd same.symm (createInputName_ne_updateInputName _ _)

/-- No field of a schema is repeated if and only if the collections are told apart, and for each entity the
relations, and the properties from the slug. -/
theorem Definition.IsOf.repeatedField?_eq_none_iff (made : ShapeIndex.ofTriples triples = .ok index)
    (isOf : definition.IsOf index) (distinct : (index.shapes.map NodeShape.name).Nodup) :
    GraphQL.TypeSystem.repeatedField? definition = none ↔
      definition.CollectionsApart ∧
        ∀ entity ∈ definition.entities, entity.RelationsApart ∧ entity.LacksSlug := by
  rw [GraphQL.TypeSystem.repeatedField?_eq_none_iff]
  constructor
  · rintro ⟨objects, inputs⟩
    -- the root of queries, the mutators and the inputs of creation are all in the schema
    have query : queryOf index ∈ definition.objects := isOf.mem_objects_iff.2 (Or.inl rfl)
    refine ⟨(isOf.nodup_queryOf_iff made distinct).1 (objects _ query), fun entity mem => ?_⟩
    have inSchema : entity ∈ entitiesOf index := isOf.entities_eq ▸ mem
    have mutator := isOf.mutatorOf_mem inSchema
    obtain ⟨input, there, name⟩ :=
      isOf.exists_input (createInputName_mem_schemaNeeds (mem_entitiesOf.1 inSchema))
    constructor
    · have apart := (isOf.nodup_objectFields_iff made distinct mutator).1 (objects _ mutator)
      exact apart.2 entity mem rfl
    · exact (isOf.nodup_inputFields_iff there).1 (inputs _ there) entity mem name
  · rintro ⟨collections, entities⟩
    constructor
    · intro type mem
      refine (isOf.nodup_objectFields_iff made distinct mem).2 ⟨fun _ _ => collections, ?_⟩
      intro entity there _
      exact (entities entity there).1
    · intro input mem
      refine (isOf.nodup_inputFields_iff mem).2 ?_
      intro entity there _
      exact (entities entity there).2

end Schemas

/-- If the shapes have different names, so have the fields of each entity, of the root of mutations and of
each input of an update. Those of the root of queries have if and only if no entity is named as the
collection of another one, those of a mutator if and only if no two relations differ in their first
letter alone, and those of an input of creation if and only if no property is named as the slug. A
schema is refused for a repeated field if and only if one of these goes wrong. -/
theorem field_names_apart_iff {triples : List Triple} {index : ShapeIndex} {definition : Definition}
    (made : ShapeIndex.ofTriples triples = .ok index)
    (generated : Definition.ofIndex index = .ok definition)
    (distinct : (index.shapes.map NodeShape.name).Nodup) :
    (∀ type ∈ definition.objects, (type.fields.map Field.name).Nodup ↔
      (type.kind = .root → type.name = queryType → definition.CollectionsApart) ∧
        ∀ entity ∈ definition.entities, type.kind = .mutator entity.name →
          entity.RelationsApart) ∧
    (∀ input ∈ definition.inputs, (input.fields.map InputField.name).Nodup ↔
      ∀ entity ∈ definition.entities, input.name = createInputName entity.name →
        entity.LacksSlug) ∧
    ((∃ field, GraphQL.TypeSystem.ofDefinition definition = .error (.repeatedField field)) ↔
      ¬ (definition.CollectionsApart ∧
        ∀ entity ∈ definition.entities, entity.RelationsApart ∧ entity.LacksSlug)) := by
  have isOf : definition.IsOf index := ShapeIndex.isOf_of_ofIndex made generated
  refine ⟨fun type => isOf.nodup_objectFields_iff made distinct,
    fun input => isOf.nodup_inputFields_iff, ?_⟩
  simp only [GraphQL.TypeSystem.ofDefinition_eq_repeatedField_iff]
  rw [← Option.ne_none_iff_exists']
  exact not_congr (isOf.repeatedField?_eq_none_iff made distinct)

/-- The fields of the schema of contacts who know each other are told apart, so that it is not refused for
one of them. -/
theorem field_names_apart_iff_knows :
    ((Resolution.knowingIndex "knows").shapes.map NodeShape.name).Nodup ∧
      ¬ ∃ field, GraphQL.TypeSystem.ofDefinition (Resolution.knowingSchema "knows") =
        .error (.repeatedField field) := by
  have distinct : ((Resolution.knowingIndex "knows").shapes.map NodeShape.name).Nodup := by
    decide +kernel
  have apart : (Resolution.knowingSchema "knows").CollectionsApart ∧
      ∀ entity ∈ (Resolution.knowingSchema "knows").entities,
        entity.RelationsApart ∧ entity.LacksSlug := by
    decide +kernel
  refine ⟨distinct, fun refused => ?_⟩
  exact (field_names_apart_iff (Resolution.ofTriples_knowingTriples "knows")
    (Resolution.ofIndex_knowingIndex "knows") distinct).2.2.1 refused apart

/-! ### Contacts with slugs -/

/-- The triples of a shape of contacts with a property whose name is that of the slug. -/
def slugTriples : List Triple :=
  let shape := Node.iri "http://example.org/shapes#ContactShape"
  let property := Node.blank "b0"
  [Graph.typing shape Shacl.nodeShape,
   ⟨shape, Shacl.targetClass, .iri Resolution.AddressBook.person⟩,
   ⟨shape, Shacl.property, .node property⟩, ⟨property, Shacl.path, .iri "http://schema.org/slug"⟩,
   ⟨property, Shacl.datatype, .iri Xsd.string⟩]

/-- The index of the shape. -/
def slugIndex : ShapeIndex := ShapeIndex.indexOf slugTriples

/-- The schema of the shape. -/
def slugSchema : Definition := ShapeIndex.schemaOf slugTriples

/-- The only shape has a name of its own, and the input of the creation of a contact has two fields for a
slug, for which the schema is refused. -/
theorem slug_repeated :
    ShapeIndex.ofTriples slugTriples = .ok slugIndex ∧
      Definition.ofIndex slugIndex = .ok slugSchema ∧
      (slugIndex.shapes.map NodeShape.name).Nodup ∧
      (∃ input ∈ slugSchema.inputs, ¬ (input.fields.map InputField.name).Nodup) ∧
      GraphQL.TypeSystem.ofDefinition slugSchema = .error (.repeatedField slugField) := by
  have facts : (slugIndex.shapes.map NodeShape.name).Nodup ∧
      (∃ input ∈ slugSchema.inputs, ¬ (input.fields.map InputField.name).Nodup) ∧
      GraphQL.TypeSystem.repeatedField? slugSchema = some slugField := by
    decide +kernel
  obtain ⟨distinct, input, refused⟩ := facts
  exact ⟨ShapeIndex.ofTriples_eq_indexOf _, ShapeIndex.ofIndex_eq_schemaOf _, distinct, input,
    GraphQL.TypeSystem.ofDefinition_eq_repeatedField_iff.2 refused⟩

end LinkedShapes.Schema
