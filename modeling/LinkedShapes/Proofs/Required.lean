import LinkedShapes.Proofs.Calls
import LinkedShapes.Proofs.MutatorFields
import LinkedShapes.Proofs.Updating

/-!
# Fields that must have a value

An update leaves out the fields that it does not change, so no field of its input must have a value. That a
field of the entity must have one is checked when the input sets it to null, which would remove all its
values: such an update is refused before anything is sent or changed, whatever else the input says.

The fields of the entity are those of the type that is found under its name. That is the entity, unless a
root has the name; then the fields of the root are asked, and the fields of the entity are not guarded.

## Main statements

* `not_updatePatch_of_denied`: there is no patch for an input that sets a required field to null.
* `update_refuses`, `update_blames`: the update is refused then, and blamed on a null only then.
* `null_guard`: both, for the updates of every schema, and which fields are guarded.
* `search_emptied`: an update that removes a value that an entity must have.
-/

namespace LinkedShapes.Schema

/-- A type has a field of the name, which must have a value. -/
def ObjectType.Requires (type : ObjectType) (name : String) : Prop :=
  ∃ field, type.field? name = some field ∧ field.type.nonNull = true

/-- An input sets a field to null that a type requires. -/
def ObjectType.Denies (type : ObjectType) (values : List (String × Json)) : Prop :=
  ∃ name, (name, .null) ∈ values ∧ type.Requires name

theorem ObjectType.requires_iff {type : ObjectType} {name : String} :
    type.Requires name ↔ (type.field? name).any (·.type.nonNull) = true := by
  rw [Option.any_eq_true]
  rfl

instance (type : ObjectType) (name : String) : Decidable (type.Requires name) :=
  decidable_of_iff _ ObjectType.requires_iff.symm

/-- All fields of an input stand for properties. -/
def InputType.AllStand (type : InputType) : Prop :=
  ∀ field ∈ type.fields, ∃ property, field.property? = some property

end LinkedShapes.Schema

namespace LinkedShapes.Resolution

open Rdf Ldp Schema Attempt ResolveError

/-! ### The patch of an update -/

section Patches

variable {entity : ObjectType} {type : InputType} {subject : String} {graph : Graph}
  {before patch : Patch} {values : List (String × Json)} {cause : ResolveError}

/-- There is no patch for an input that sets a required field to null. -/
theorem not_updatePatch_of_denied (stand : type.AllStand) (denied : entity.Denies values) :
    updatePatch entity type subject graph values ≠ .ok patch := by
  intro made
  obtain ⟨name, null, required⟩ := denied
  obtain ⟨_, alone⟩ := exists_updatePatch_iff.1 ⟨patch, made⟩ (name, .null) null
  obtain ⟨field, found, alone⟩ := updateMember_eq_ok_iff.1 alone
  obtain ⟨property, stands⟩ := stand field (List.mem_of_find?_eq_some found)
  simp only [stands] at alone
  rw [ObjectType.requires_iff.1 required] at alone
  exact absurd alone.1 (by decide)

/-- The error is not that a field is set to null, or an input is given that sets the field to null, and the
type requires it. -/
def ResolveError.BlamedOn (type : ObjectType) (given : Option Json) (cause : ResolveError) : Prop :=
  ∀ typeName name, cause = .nullOnNonNullable typeName name →
    typeName = type.name ∧ ∃ values, given = some (.object values) ∧
      (name, .null) ∈ values ∧ type.Requires name

theorem updateMember_blames (before : Patch) {member : String × Json} (mem : member ∈ values) :
    Allows (BlamedOn entity (some (.object values)))
      (updateMember entity type subject graph before member) := by
  obtain ⟨name, value⟩ := member
  intro cause failed
  rcases except_bind_eq_error.1 failed with failed | ⟨field, -, failed⟩
  · exact inputField_allows (fun _ _ => nofun) type name cause failed
  · split at failed
    · cases failed
    · split at failed
      · rename_i refused
        obtain ⟨isNull, required⟩ := Bool.and_eq_true_iff.1 refused
        obtain rfl := Json.isNull_eq_true_iff.1 isNull
        cases failed
        rintro _ _ ⟨⟩
        exact ⟨rfl, values, rfl, mem, ObjectType.requires_iff.2 required⟩
      · rcases except_bind_eq_error.1 failed with failed | ⟨literals, -, ended⟩
        · exact literalsOf_allows (fun _ _ => nofun) (fun _ _ _ => nofun) _ _ _ cause failed
        · cases ended

/-- The lack of a patch is blamed on a null only where one is for a required field. -/
theorem updatePatch_blames :
    Allows (BlamedOn entity (some (.object values)))
      (updatePatch entity type subject graph values) := by
  intro cause failed
  obtain ⟨before, member, mem, failed⟩ := exists_of_foldlM_eq_error failed
  exact updateMember_blames before mem cause failed

end Patches

/-! ### Updates -/

section Updates

variable {σ : Type} {client : Client σ} {world : World σ} {resolver : Resolver} {request : Request}
  {entity : ObjectType} {type : InputType} {values : List (String × Json)}

/-- An update whose input sets a required field to null is refused. -/
theorem update_refuses
    (isEntity : resolver.definition.object request.field.type.name = .ok entity)
    (denied : ∀ type values, inputObject resolver request = .ok (type, values) →
      type.AllStand ∧ entity.Denies values) :
    (update resolver request).Refuses client world := by
  have looked : (ofSchema (resolver.definition.object request.field.type.name)).Idles client world
      (.ok entity) := isEntity ▸ idles_pure entity
  refine refuses_lift_bind fun context _ => ?_
  refine refuses_lift_bind fun subject _ => ?_
  refine looked.bind_refuses ?_
  refine refuses_lift_bind fun (type, values) input => ?_
  refine (idles_readGraph _).bind_refuses ?_
  refine refuses_lift_bind fun patch made => ?_
  obtain ⟨stand, isDenied⟩ := denied type values input
  exact absurd made (not_updatePatch_of_denied stand isDenied)

/-- The failure of an update is blamed on a null only where the input sets a required field to null. -/
theorem update_blames
    (isEntity : resolver.definition.object request.field.type.name = .ok entity) :
    (update resolver request).FailsOnly (BlamedOn entity (request.argument? inputArgument)) := by
  refine failsOnly_lift_bind (context_allows request fun _ => nofun) fun context _ => ?_
  refine failsOnly_lift_bind (namedSubject_allows request (fun _ => nofun) (fun _ => nofun) context)
    fun subject _ => ?_
  refine failsOnly_ofSchema_bind_of_eq isEntity ?_
  refine failsOnly_lift_bind (inputObject_allows resolver request (fun _ _ => nofun) fun _ _ _ _ => nofun)
    fun (type, values) input => ?_
  obtain ⟨_, -, -, given⟩ := inputObject_eq_ok_iff.1 input
  rw [given]
  refine (failsOnly_readGraph _).bind fun graph => ?_
  refine (failsOnly_lift updatePatch_blames).bind fun patch => ?_
  exact (applyPatch_failsOnly (fun _ => nofun) context patch).bind fun _ => failsOnly_pure _

end Updates

/-! ### Schemas -/

section Schemas

variable {index : ShapeIndex} {definition : Definition} {entity : ObjectType} {field : Field}
  {name : String}

theorem allStand_updateInputOf (index : ShapeIndex) (entity : ObjectType) :
    (updateInputOf index entity).AllStand := by
  intro field mem
  obtain ⟨input, isInput, rfl⟩ := List.mem_map.1 mem
  obtain ⟨scalar, isScalar, rfl⟩ := List.mem_map.1 isInput
  have stands := (Bool.and_eq_true_iff.1 (List.mem_filter.1 isScalar).2).1
  exact Option.isSome_iff_exists.1 stands

/-- The input type that is found for an update of an entity is that of an update. -/
theorem eq_updateInputOf_of_input (isOf : definition.IsOf index) {type : InputType}
    (found : definition.input (updateInputName name) = .ok type) :
    ∃ entity, type = updateInputOf index entity := by
  have first := Definition.input_eq_ok_iff.1 found
  have same : type.name = updateInputName name := by simpa using List.find?_some first
  obtain ⟨entity, -, rfl | rfl⟩ := isOf.inputs type (List.mem_of_find?_eq_some first)
  · exact absurd same (createInputName_ne_updateInputName _ _)
  · exact ⟨entity, rfl⟩

/-- The only field of a mutator that is named so updates its entity. -/
theorem mem_updateFields_of_name (mem : field ∈ mutatorFields index entity)
    (named : field.name = "update") : field ∈ updateFields index entity := by
  rcases mem_mutatorFields.1 mem with rfl | update | ⟨relation, -, -, change, -, rfl⟩
  · have other : "delete" ≠ "update" := by decide
    exact absurd named other
  · exact update
  · have apart := (List.pairwise_cons.1 (List.pairwise_cons.1 pairwise_apart_verbs).2).1
    have isVerb : change.verb ∈ verbs.map Prod.fst :=
      List.mem_map.2 ⟨_, change.mem_verbs, rfl⟩
    exact absurd named ((apart _ isVerb).ne_append _)

/-- The type that is found under the name of an entity is the entity, unless a root has the name. -/
theorem exists_object?_of_entity (isOf : definition.IsOf index) (mem : entity ∈ entitiesOf index) :
    ∃ guard, definition.object? entity.name = some guard ∧
      (guard = entity ↔ entity.name ≠ queryType ∧ entity.name ≠ mutationType) := by
  have kind := kind_of_mem_entitiesOf mem
  by_cases query : entity.name = queryType
  · refine ⟨queryOf index, query ▸ isOf.object?_queryType, iff_of_false ?_ (fun h => h.1 query)⟩
    rintro rfl
    cases kind
  by_cases mutation : entity.name = mutationType
  · refine ⟨mutationOf index, mutation ▸ isOf.object?_mutationType,
      iff_of_false ?_ (fun h => h.2 mutation)⟩
    rintro rfl
    cases kind
  exact ⟨entity, object?_of_mem_entitiesOf isOf mem query mutation, iff_of_true rfl ⟨query, mutation⟩⟩

end Schemas

/-- The update of an entity is refused when its input sets a field to null that must have a value, whatever
else the input says: it fails without a call and leaves the world as it was. It fails for a null only then,
and names a field of the input. The field must have a value as the type says that is found under the name of
the entity, which is the entity unless a root has the name. -/
theorem null_guard {triples : List Triple} {index : ShapeIndex} {definition : Definition}
    {mutator : ObjectType} {name : String} (made : ShapeIndex.ofTriples triples = .ok index)
    (generated : Definition.ofIndex index = .ok definition) (mem : mutator ∈ definition.objects)
    (kind : mutator.kind = .mutator name) :
    ∃ entity guard, entity ∈ definition.objects ∧ entity.kind = .entity ∧ entity.name = name ∧
      definition.object? name = some guard ∧
      (guard = entity ↔ name ≠ queryType ∧ name ≠ mutationType) ∧
      ∀ field ∈ mutator.fields, field.name = "update" →
        ∀ {σ : Type} (client : Client σ) (world : World σ) target? arguments parent,
          let resolver : Resolver := ⟨definition, target?⟩
          let request : Request := ⟨mutator, field, arguments, parent⟩
          request.isHandled = false →
          (∀ values, request.argument? inputArgument = some (.object values) →
            guard.Denies values → (resolver.resolve request).Refuses client world) ∧
          ∀ typeName denied after, (resolver.resolve request).runIn client world =
              (.error (.nullOnNonNullable typeName denied), after) →
            typeName = name ∧ ∃ values, request.argument? inputArgument = some (.object values) ∧
              (denied, .null) ∈ values ∧ guard.Requires denied := by
  have isOf : definition.IsOf index := ShapeIndex.isOf_of_ofIndex made generated
  obtain ⟨entity, inSchema, rfl, rfl⟩ := isOf.exists_entity_of_mutator mem kind
  obtain ⟨member, isEntity⟩ := isOf.mem_entitiesOf_iff.1 inSchema
  obtain ⟨guard, found, same⟩ := exists_object?_of_entity isOf inSchema
  refine ⟨entity, guard, member, isEntity, rfl, found, same, ?_⟩
  intro field there named σ client world target? arguments parent resolver request unhandled
  obtain rfl := eq_of_mem_updateFields (mem_updateFields_of_name there named)
  have updates : request.Mutates .update :=
    ⟨Bool.or_true _, unhandled, by rintro (identifier | stands) <;> contradiction, rfl⟩
  have isGuard : resolver.definition.object request.field.type.name = .ok guard := by
    change definition.object entity.name = .ok guard
    rw [Definition.object, found]
  rw [resolve_of_mutates updates]
  constructor
  · intro values given denied
    refine update_refuses isGuard fun type members input => ?_
    obtain ⟨argument, declared, known, isGiven⟩ := inputObject_eq_ok_iff.1 input
    obtain rfl := Json.object.inj (Option.some.inj (given.symm.trans isGiven))
    obtain rfl : Generation.inputArgumentOf (updateInputName entity.name) = argument :=
      Option.some.inj declared
    obtain ⟨other, rfl⟩ := eq_updateInputOf_of_input isOf known
    exact ⟨allStand_updateInputOf index other, denied⟩
  · intro typeName denied after failed
    have blamed := (update_blames isGuard).runIn client world _ (congrArg Prod.fst failed)
    obtain ⟨rfl, given⟩ := blamed typeName denied rfl
    have named : guard.name = entity.name := by simpa using List.find?_some found
    exact ⟨named, given⟩

/-! ### Searches with a text -/

theorem eq_ok_of_toOption {ε α : Type} {value : Except ε α} {a : α}
    (known : value.toOption = some a) : value = .ok a := by
  cases value with
  | error cause => cases known
  | ok other => exact congrArg Except.ok (Option.some.inj known)

/-- The triples of a shape of searches, each of which must have a text. -/
def textTriples (localName : String) : List Triple :=
  let shape := Node.iri ("http://example.org/shapes#" ++ localName)
  let property := Node.blank "b0"
  [Graph.typing shape Shacl.nodeShape,
   ⟨shape, Shacl.targetClass, .iri "http://schema.org/SearchAction"⟩,
   ⟨shape, Shacl.property, .node property⟩,
   ⟨property, Shacl.path, .iri "http://schema.org/query"⟩,
   ⟨property, Shacl.name, .literal (.simple "text")⟩,
   ⟨property, Shacl.datatype, .iri Xsd.string⟩,
   ⟨property, Shacl.minCount, .literal (.simple "1")⟩,
   ⟨property, Shacl.maxCount, .literal (.simple "1")⟩]

/-- The schema of the shape. -/
def textSchema (localName : String) : Definition := ShapeIndex.schemaOf (textTriples localName)

/-- The resolver of the schema. -/
def textResolver (localName : String) : Resolver :=
  { definition := textSchema localName, target? := fun _ => none }

/-- The document of the searches. -/
def searches : String := "http://example.org/searches"

/-- The text of a search. -/
def searchText : Triple :=
  ⟨.iri "http://example.org/searches#first", "http://schema.org/query", .literal (.simple "shapes")⟩

/-- A document with one search, which has a text. -/
def searched : World Store :=
  let triples :=
    [Graph.typing (.iri "http://example.org/searches#first") "http://schema.org/SearchAction", searchText]
  { resources := Store.empty.addTriples searches triples
    graphs := #[Graph.ofList triples]
    names := { draw := fun _ => 0 } }

/-- The search. -/
def firstSearch : Context where
  subject := some (.iri "http://example.org/searches#first")
  graph := 0
  kind := .document
  url := searches

/-- The mutator of an entity of the schema. -/
def textMutator (localName name : String) : ObjectType :=
  ((textSchema localName).object? (mutatorName name)).getD default

/-- An update that sets the text of the search to null. -/
def textRemoval (localName name : String) : Request where
  owner := textMutator localName name
  field := ((textMutator localName name).field? "update").getD default
  arguments := [(inputArgument, .object [("text", .null)])]
  parent := some firstSearch

/-- The text of a search is not removed. -/
theorem null_guard_search :
    ((textResolver "SearchShape").resolve (textRemoval "SearchShape" "Search")).Refuses Store.client
      searched := by
  have facts : textMutator "SearchShape" "Search" ∈ (textSchema "SearchShape").objects ∧
      (textMutator "SearchShape" "Search").kind = .mutator "Search" ∧
      (textRemoval "SearchShape" "Search").field ∈ (textMutator "SearchShape" "Search").fields ∧
      (textRemoval "SearchShape" "Search").field.name = "update" ∧
      (((textSchema "SearchShape").object? "Search").bind (·.field? "text")).any (·.type.nonNull) =
        true := by
    decide +kernel
  obtain ⟨mem, kind, there, named, required⟩ := facts
  have generated : Definition.ofIndex (ShapeIndex.indexOf (textTriples "SearchShape")) =
      .ok (textSchema "SearchShape") := ShapeIndex.ofIndex_eq_schemaOf _
  obtain ⟨entity, guard, -, -, -, found, -, guarded⟩ :=
    null_guard (ShapeIndex.ofTriples_eq_indexOf _) generated mem kind
  rw [found, Option.bind_some] at required
  exact (guarded _ there named Store.client searched _ _ _ rfl).1 _ rfl
    ⟨"text", List.mem_singleton_self _, ObjectType.requires_iff.2 required⟩

/-- Where the searches are named as the root of queries is, their text is removed though they must have one:
the update is answered, after a call. -/
theorem search_emptied :
    (∃ index, ShapeIndex.ofTriples (textTriples "QueryShape") = .ok index ∧
      Definition.ofIndex index = .ok (textSchema "QueryShape")) ∧
    textMutator "QueryShape" "Query" ∈ (textSchema "QueryShape").objects ∧
    (textMutator "QueryShape" "Query").kind = .mutator "Query" ∧
    (∃ entity ∈ (textSchema "QueryShape").entities, entity.name = "Query" ∧ entity.Requires "text") ∧
    (textRemoval "QueryShape" "Query").field ∈ (textMutator "QueryShape" "Query").fields ∧
    (textRemoval "QueryShape" "Query").isHandled = false ∧
    ∃ after, ((textResolver "QueryShape").resolve (textRemoval "QueryShape" "Query")).Returns Store.client
        searched (.node firstSearch.afterMutation) after ∧
      searchText ∈ searched.resources.documentOrEmpty searches ∧
      searchText ∉ after.resources.documentOrEmpty searches := by
  let entity := ((textSchema "QueryShape").object? "Query").getD default
  let type := ((textSchema "QueryShape").input? "UpdateQueryInput").getD default
  let patch : Patch := { deletes := [searchText] }
  have facts : textMutator "QueryShape" "Query" ∈ (textSchema "QueryShape").objects ∧
      (textMutator "QueryShape" "Query").kind = .mutator "Query" ∧
      (∃ entity ∈ (textSchema "QueryShape").entities,
        entity.name = "Query" ∧ entity.Requires "text") ∧
      (textRemoval "QueryShape" "Query").field ∈ (textMutator "QueryShape" "Query").fields ∧
      (textRemoval "QueryShape" "Query").isMutation = true ∧
      ¬ Reads (textRemoval "QueryShape" "Query").field ∧
      (MutationKind.ofName (textRemoval "QueryShape" "Query").field.name).1 = .update := by
    decide +kernel
  have planned :
      ((textSchema "QueryShape").object (textRemoval "QueryShape" "Query").field.type.name).toOption =
        some entity ∧
      (textRemoval "QueryShape" "Query").field.argument? inputArgument =
        some (Generation.inputArgumentOf "UpdateQueryInput") ∧
      ((textSchema "QueryShape").input "UpdateQueryInput").toOption = some type ∧
      (updatePatch entity type "http://example.org/searches#first" (searched.graph 0)
        [("text", .null)]).toOption = some patch := by
    decide +kernel
  obtain ⟨mem, kind, required, there, mutation, entry, verb⟩ := facts
  obtain ⟨isEntity, declared, known, made⟩ := planned
  have input : inputObject (textResolver "QueryShape") (textRemoval "QueryShape" "Query") =
      .ok (type, [("text", .null)]) :=
    inputObject_eq_ok_iff.2 ⟨_, declared, eq_ok_of_toOption known, rfl⟩
  have updates : (textRemoval "QueryShape" "Query").Updates firstSearch
      "http://example.org/searches#first" := ⟨⟨mutation, rfl, entry, verb⟩, rfl, rfl⟩
  have applied : (applyPatch firstSearch patch).Returns Store.client searched ()
      ((applyPatch firstSearch patch).runIn Store.client searched).2 := rfl
  have ran : ((textResolver "QueryShape").resolve (textRemoval "QueryShape" "Query")).Returns Store.client
      searched (.node firstSearch.afterMutation) _ := updates.returns_iff.2
    ⟨entity, type, _, patch, eq_ok_of_toOption isEntity, input, eq_ok_of_toOption made, applied, rfl⟩
  refine ⟨⟨_, ShapeIndex.ofTriples_eq_indexOf _, ShapeIndex.ofIndex_eq_schemaOf _⟩, mem, kind, required,
    there, rfl, _, ran, ?_, ?_⟩
  all_goals
    rw [← Graph.contains_eq_true_iff]
    decide +kernel

end LinkedShapes.Resolution
