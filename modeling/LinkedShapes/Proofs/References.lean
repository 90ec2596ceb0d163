import LinkedShapes.Proofs.Histories
import LinkedShapes.Proofs.MutatorFields

/-!
# What a schema refers to

The types of a schema refer to each other by their names alone. Whatever was asked of a generation before,
the schema of a shapes graph is made, and each name that it refers to is there: fields have scalars and
object types, arguments have identifiers and input types, and input types have scalars. A relation never
refers to a class without a shape, and an input type is listed wherever a field asks for it.

## Main statements

* `Definition.IsOf.isClosed`: the schema of the shapes of an index refers to its own types.
* `Definition.IsClosed.of_reordered`: the order of the input types makes no difference.
* `history_schema_closed`: after every history of calls a closed schema is made.
-/

namespace LinkedShapes.Schema

open Rdf

/-- What a field refers to is in a definition: its type is a scalar, the type of identifiers or an object
type, and the types of its arguments are the type of identifiers or input types. -/
structure Definition.Scopes (definition : Definition) (field : Field) : Prop where
  /-- The type of the field. -/
  type : (∃ scalar : Scalar, field.type.name = scalar.name) ∨ field.type.name = idType ∨
    ∃ type ∈ definition.objects, type.name = field.type.name
  /-- The types of the arguments. -/
  arguments : ∀ argument ∈ field.arguments, argument.type.name = idType ∨
    ∃ input ∈ definition.inputs, input.name = argument.type.name

/-- A definition refers to its own types, and each of its input types has a name of its own. -/
structure Definition.IsClosed (definition : Definition) : Prop where
  /-- What the fields of object types refer to is there. -/
  fields : ∀ type ∈ definition.objects, ∀ field ∈ type.fields, definition.Scopes field
  /-- The fields of input types are scalars. -/
  scalars : ∀ input ∈ definition.inputs, ∀ field ∈ input.fields, field.type.scalar?.isSome
  /-- No name of an input type is listed twice. -/
  distinct : (definition.inputs.map InputType.name).Nodup

section Scopes

variable {index : ShapeIndex} {definition other : Definition} {entity : ObjectType}
  {input : InputType}

/-- What returns an entity and asks for nothing but identifiers and inputs of a schema. -/
theorem Definition.IsOf.scopes (isOf : definition.IsOf index) (mem : entity ∈ entitiesOf index)
    {field : Field} (type : field.type.name = entity.name)
    (arguments : ∀ argument ∈ field.arguments,
      argument.type.name = idType ∨ argument.type.name ∈ schemaNeeds index) :
    definition.Scopes field := by
  refine ⟨Or.inr (Or.inr ⟨entity, (isOf.mem_entitiesOf_iff.1 mem).1, type.symm⟩), ?_⟩
  intro argument there
  exact (arguments argument there).imp_right isOf.exists_input

/-- The identifier and the properties of an entity. -/
theorem Definition.IsOf.scopes_entity (closed : Closed index) (isOf : definition.IsOf index)
    (mem : entity ∈ entitiesOf index) {field : Field} (there : field ∈ entity.fields) :
    definition.Scopes field := by
  obtain ⟨shape, -, rfl⟩ := List.mem_map.1 mem
  rcases List.mem_cons.1 there with rfl | there
  · exact ⟨Or.inr (Or.inl rfl), nofun⟩
  · obtain ⟨property, -, typeName, usable, rfl, -⟩ := exists_property_of_mem_propertyFields there
    refine ⟨?_, nofun⟩
    rw [name_type_propertyField]
    unfold valueTypeName? at usable
    cases kind : property.kind with
    | scalar scalar datatype =>
      rw [kind] at usable
      exact Or.inl ⟨scalar, (Option.some.inj usable).symm⟩
    | relation cls =>
      rw [kind] at usable
      obtain ⟨target, found, rfl⟩ := Option.map_eq_some_iff.1 usable
      obtain ⟨linked, inSchema, name⟩ := exists_entity_of_mem (closed cls target found)
      exact Or.inr (Or.inr ⟨linked, (isOf.mem_entitiesOf_iff.1 inSchema).1, name⟩)
    | unsupported =>
      rw [kind] at usable
      cases usable

/-- The removal and the update of an entity, and the changes of its relations. -/
theorem Definition.IsOf.scopes_mutator (closed : Closed index) (isOf : definition.IsOf index)
    (mem : entity ∈ entitiesOf index) {field : Field} (there : field ∈ mutatorFields index entity) :
    definition.Scopes field := by
  rcases Resolution.mem_mutatorFields.1 there with rfl | update | changed
  · exact isOf.scopes mem rfl nofun
  · unfold updateFields at update
    split at update
    · cases update
    · rename_i updatable
      obtain rfl := List.mem_singleton.1 update
      refine isOf.scopes mem rfl fun argument asked => Or.inr ?_
      obtain rfl := List.mem_singleton.1 asked
      have needed : updateInputName entity.name ∈ updateNeeds index entity := by
        rw [updateNeeds, if_neg updatable]
        exact List.mem_singleton_self _
      exact List.mem_flatMap.2
        ⟨entity, mem, List.mem_cons_of_mem _ (List.mem_append_left _ needed)⟩
  · obtain ⟨relation, stated, isRelation, change, -, rfl⟩ := changed
    obtain ⟨linked, found⟩ := closed.linked mem stated isRelation
    have needed := createInputName_mem_schemaNeeds found
    refine isOf.scopes mem rfl fun argument asked => ?_
    cases change with
    | set | add =>
      obtain rfl := List.mem_singleton.1 asked
      exact Or.inr needed
    | clear => cases asked
    | remove | link | unlink =>
      obtain rfl := List.mem_singleton.1 asked
      exact Or.inl rfl

/-- The queries and the mutations of an entity. -/
theorem Definition.IsOf.scopes_root (isOf : definition.IsOf index) (mem : entity ∈ entitiesOf index)
    {field : Field} (there : field ∈ Generation.queryFields entity ++ mutationFieldsOf entity) :
    definition.Scopes field := by
  have found := mem_entitiesOf.1 mem
  simp only [Generation.queryFields, mutationFieldsOf, List.mem_append, List.mem_cons,
    List.not_mem_nil, or_false] at there
  rcases there with (rfl | rfl) | (rfl | rfl)
  · refine isOf.scopes mem rfl fun argument asked => Or.inl ?_
    obtain rfl := List.mem_singleton.1 asked
    rfl
  · refine isOf.scopes mem rfl fun argument asked => ?_
    cases asked
  · refine isOf.scopes mem rfl fun argument asked => Or.inr ?_
    obtain rfl := List.mem_singleton.1 asked
    exact createInputName_mem_schemaNeeds found
  · refine ⟨Or.inr (Or.inr ⟨_, isOf.mutatorOf_mem mem, rfl⟩), fun argument asked => Or.inl ?_⟩
    obtain rfl := List.mem_singleton.1 asked
    rfl

/-- The inputs that write the scalar fields of an entity are scalars. -/
theorem scalar_of_mem_scalarInputs {field : InputField} (mem : field ∈ scalarInputs index entity) :
    field.type.scalar?.isSome := by
  obtain ⟨own, there, rfl⟩ := List.mem_map.1 mem
  have isScalar := (List.mem_filter.1 there).2
  rw [Field.isScalarProperty, Bool.and_eq_true] at isScalar
  exact isScalar.2

/-- The fields of the input types of a schema are scalars. -/
theorem Definition.IsOf.scalar_of_mem (isOf : definition.IsOf index) (mem : input ∈ definition.inputs)
    {field : InputField} (there : field ∈ input.fields) : field.type.scalar?.isSome := by
  obtain ⟨entity, -, rfl | rfl⟩ := isOf.inputs input mem
  · rcases List.mem_append.1 there with own | named
    · exact scalar_of_mem_scalarInputs own
    · simp only [List.mem_cons, List.not_mem_nil, or_false] at named
      rcases named with rfl | rfl <;> decide
  · obtain ⟨own, written, rfl⟩ := List.mem_map.1 there
    have scalar : own.type.scalar?.isSome := scalar_of_mem_scalarInputs written
    exact scalar

/-- The schema of the shapes of an index refers to its own types. -/
theorem Definition.IsOf.isClosed (closed : Closed index) (isOf : definition.IsOf index) :
    definition.IsClosed := by
  refine ⟨fun type mem field there => ?_, fun input mem field there => isOf.scalar_of_mem mem there,
    ?_⟩
  · rcases isOf.mem_objects_iff.1 mem with rfl | rfl | entity | ⟨entity, inSchema, rfl⟩
    · obtain ⟨entity, inSchema, there⟩ := List.mem_flatMap.1 there
      exact isOf.scopes_root inSchema (List.mem_append_left _ there)
    · obtain ⟨entity, inSchema, there⟩ := List.mem_flatMap.1 there
      exact isOf.scopes_root inSchema (List.mem_append_right _ there)
    · exact isOf.scopes_entity closed entity there
    · exact isOf.scopes_mutator closed inSchema there
  · rw [isOf.inputNames]
    exact nodup_addNames List.nodup_nil

/-- The order of the input types makes no difference to what a definition refers to. -/
theorem Definition.IsClosed.of_reordered (isClosed : definition.IsClosed)
    (objects : other.objects = definition.objects) (inputs : other.inputs.Perm definition.inputs) :
    other.IsClosed := by
  refine ⟨fun type mem field there => ?_, fun input mem => isClosed.scalars input (inputs.mem_iff.1 mem),
    (inputs.map _).nodup_iff.2 isClosed.distinct⟩
  obtain ⟨typed, arguments⟩ := isClosed.fields type (objects ▸ mem) field there
  refine ⟨objects ▸ typed, fun argument asked => (arguments argument asked).imp_right ?_⟩
  rintro ⟨input, mem, name⟩
  exact ⟨input, inputs.mem_iff.2 mem, name⟩

end Scopes

/-- Whatever a generation was asked before, the schema of a shapes graph is made, and it is closed. -/
theorem history_schema_closed (triples : List Triple) (calls : List GenerationCall) :
    ∃ index definition, ShapeIndex.ofTriples triples = .ok index ∧
      (Generation.definition.runOn ((Generator.ofIndex index).after calls)).1 = .ok definition ∧
      definition.IsClosed := by
  obtain ⟨index, fresh, made, generated, isOf⟩ := ShapeIndex.exists_schema triples
  have closed := ShapeIndex.closed_of_ofTriples made
  have kept := (Generator.Kept.ofIndex index).after closed calls
  obtain ⟨definition, after, ran, -, objects, inputs⟩ := kept.exists_definition closed generated
  exact ⟨index, definition, made, congrArg Prod.fst ran,
    (isOf.isClosed closed).of_reordered objects inputs⟩

end LinkedShapes.Schema
