import LinkedShapes.Proofs.Causes
import LinkedShapes.Proofs.Shapes

/-!
# The fields of mutators

The schema has a field of a mutator for each change that can be made to a relation, named after the verb
of the change and the capitalised name of the relation. A field of a mutator is resolved by taking its
name apart again: no verb starts with another one, so the verb is always found, but the first letter
of the relation is only put back in lower case. So a field is understood if and only if the relation
starts with no capital letter and its entity is not looked up as one of the roots.

## Main statements

* `ofName_append`: a verb is taken off the name that it was put before.
* `Text.decapitalize_capitalize`: what is left of the name of a relation.
* `changedRelation_eq_ok_iff`: which relation is found for a field of a mutator.
* `relation_mutator_understood_iff`: which fields of mutators are understood.
-/

namespace LinkedShapes.Text

theorem lowerChars_toUpper (c : Char) : lowerChars c.toUpper = lowerChars c := by
  by_cases ascii : c.toNat < 128
  · have cased : ∀ n : Fin 128, (Char.ofNat n).toUpper.toNat < 128 ∧
        (Char.ofNat n).toUpper.toLower = (Char.ofNat n).toLower := by decide
    have same := cased ⟨c.toNat, ascii⟩
    simp only [Char.ofNat_toNat] at same
    rw [lowerChars_of_ascii same.1, lowerChars_of_ascii ascii, same.2]
  · -- only ASCII letters are put in upper case
    have unchanged : c.toUpper = c := by
      refine dif_neg fun lower => ascii ?_
      have bound : c.toNat ≤ 122 := UInt32.le_iff_toNat_le.1 lower.2
      omega
    rw [unchanged]

/-- A capital letter at the start of a name makes no difference to the name without it. -/
theorem decapitalize_capitalize (name : String) :
    decapitalize (capitalize name) = decapitalize name := by
  unfold capitalize
  cases chars : name.toList with
  | nil => simp [decapitalize, chars]
  | cons c rest => simp [decapitalize, chars, lowerChars_toUpper]

theorem capitalize_ne_empty {name : String} (nonempty : name.toList ≠ []) :
    capitalize name ≠ "" := by
  unfold capitalize
  cases chars : name.toList with
  | nil => exact absurd chars nonempty
  | cons c rest =>
    intro empty
    simpa using congrArg String.toList empty

end LinkedShapes.Text

namespace LinkedShapes.Resolution

open Rdf Ldp Schema

/-! ### Verbs -/

/-- Neither of two words starts with the other. -/
def Apart (first second : String) : Prop :=
  ¬ first.toList <+: second.toList ∧ ¬ second.toList <+: first.toList

instance (first second : String) : Decidable (Apart first second) :=
  inferInstanceAs (Decidable (_ ∧ _))

/-- No verb starts with another one, nor with the name of a field without a relation. -/
theorem pairwise_apart_verbs : ("delete" :: "update" :: verbs.map Prod.fst).Pairwise Apart := by
  decide

section Verbs

variable {verb word suffix : String} {kind : MutationKind}

theorem Apart.ne_append (apart : Apart word verb) (suffix : String) : verb ++ suffix ≠ word := by
  rintro rfl
  exact apart.2 (by simp)

theorem afterVerb?_of_apart (apart : Apart word verb) (suffix : String) :
    afterVerb? word (verb ++ suffix) = none := by
  have unprefixed : ¬ word.toList <+: (verb ++ suffix).toList := by
    intro starts
    rw [String.toList_append] at starts
    rcases List.prefix_or_prefix_of_prefix starts (List.prefix_append _ _) with h | h
    · exact apart.1 h
    · exact apart.2 h
  rw [afterVerb?, if_neg]
  rw [Bool.and_eq_true, List.isPrefixOf_iff_prefix]
  exact fun h => unprefixed h.1

theorem afterVerb?_append (nonempty : suffix ≠ "") :
    afterVerb? verb (verb ++ suffix) = some suffix := by
  have long : 0 < suffix.toList.length := by
    rw [List.length_pos_iff]
    exact fun h => nonempty (String.toList_eq_nil_iff.1 h)
  simp [afterVerb?, List.isPrefixOf_iff_prefix, long]

/-- A verb is taken off the name that it was put before. -/
theorem ofName_append (mem : (verb, kind) ∈ verbs) (nonempty : suffix ≠ "") :
    MutationKind.ofName (verb ++ suffix) = (kind, suffix) := by
  obtain ⟨before, rest, split⟩ := List.append_of_mem mem
  obtain ⟨notDelete, others⟩ := List.pairwise_cons.1 pairwise_apart_verbs
  obtain ⟨notUpdate, distinct⟩ := List.pairwise_cons.1 others
  have named : verb ∈ verbs.map Prod.fst := List.mem_map.2 ⟨_, mem, rfl⟩
  rw [MutationKind.ofName,
    if_neg ((notDelete verb (List.mem_cons_of_mem _ named)).ne_append suffix),
    if_neg ((notUpdate verb named).ne_append suffix)]
  -- the verbs that are tried before are apart from the one of the name
  rw [List.findSome?_eq_some_iff.2 ⟨before, (verb, kind), rest, split, ?_, ?_⟩]
  · simp [afterVerb?_append nonempty]
  · rintro ⟨word, other⟩ earlier
    rw [split, List.map_append, List.pairwise_append] at distinct
    have apart := distinct.2.2 word (List.mem_map.2 ⟨_, earlier, rfl⟩) verb (by simp)
    simp [afterVerb?_of_apart apart suffix]

end Verbs

/-! ### Fields of changes -/

/-- The verb of a change. -/
def RelationChange.verb : RelationChange → String
  | .set => "set"
  | .clear => "clear"
  | .add => "add"
  | .remove => "remove"
  | .link => "link"
  | .unlink => "unlink"

theorem RelationChange.mem_verbs (change : RelationChange) :
    (change.verb, .relation change) ∈ verbs := by
  cases change <;> decide

/-- The changes that can be made to a relation. -/
def changesOf (relation : Field) : List RelationChange :=
  (if relation.type.list then [.add, .remove] else [.set, .clear]) ++ [.link, .unlink]

/-- The arguments of a change of a relation to entities of a type. -/
def RelationChange.arguments (typeName : String) : RelationChange → List Argument
  | .set | .add => [Generation.inputArgumentOf (createInputName typeName)]
  | .clear => []
  | .remove | .link | .unlink => [Generation.idArgument]

/-- The field of a mutator that makes a change to a relation. -/
def mutatorField (returned : TypeExpr) (relation : Field) (change : RelationChange) : Field :=
  { name := change.verb ++ Text.capitalize relation.name
    type := returned
    arguments := change.arguments relation.type.name }

theorem relationMutatorsOf_eq (returned : TypeExpr) (relation : Field) :
    relationMutatorsOf returned relation =
      (changesOf relation).map (mutatorField returned relation) := by
  unfold relationMutatorsOf changesOf
  dsimp only
  split <;> rfl

/-- A mutator removes and updates its entity, and makes the changes of its relations. -/
theorem mem_mutatorFields {index : ShapeIndex} {entity : ObjectType} {field : Field} :
    field ∈ mutatorFields index entity ↔
      field = { name := "delete", type := returnedBy entity } ∨ field ∈ updateFields index entity ∨
        ∃ relation ∈ entity.fields, relation.isRelation = true ∧ ∃ change ∈ changesOf relation,
          field = mutatorField (returnedBy entity) relation change := by
  rw [mutatorFields, List.cons_append, List.mem_cons, List.mem_append, List.mem_flatten]
  refine or_congr_right (or_congr_right ⟨?_, ?_⟩)
  · rintro ⟨fields, made, mem⟩
    obtain ⟨relation, there, rfl⟩ := List.mem_map.1 made
    obtain ⟨there, isRelation⟩ := List.mem_filter.1 there
    rw [relationMutatorsOf_eq] at mem
    obtain ⟨change, possible, rfl⟩ := List.mem_map.1 mem
    exact ⟨relation, there, isRelation, change, possible, rfl⟩
  · rintro ⟨relation, there, isRelation, change, possible, rfl⟩
    refine ⟨_, List.mem_map.2 ⟨relation, List.mem_filter.2 ⟨there, isRelation⟩, rfl⟩, ?_⟩
    rw [relationMutatorsOf_eq]
    exact List.mem_map.2 ⟨change, possible, rfl⟩

/-- A mutator has at most one field for updates. -/
theorem eq_of_mem_updateFields {index : ShapeIndex} {entity : ObjectType} {field : Field}
    (mem : field ∈ updateFields index entity) :
    field = { name := "update", type := returnedBy entity,
              arguments := [Generation.inputArgumentOf (updateInputName entity.name)] } := by
  unfold updateFields at mem
  split at mem
  · cases mem
  · exact List.mem_singleton.1 mem

/-- The only input that a change of a relation asks for is that of the creation of an entity. -/
theorem argument?_mutatorField {returned : TypeExpr} {relation : Field} {change : RelationChange}
    {argument : Argument}
    (found : (mutatorField returned relation change).argument? inputArgument = some argument) :
    argument.type.name = createInputName relation.type.name := by
  cases change <;> cases found <;> rfl

/-- Changes the links of an entity by a predicate. -/
def changeLinks (resolver : Resolver) (request : Request) (change : RelationChange) (field : Field)
    (property : String) : Attempt Resolved := do
  let context ← request.context
  let subject ← namedSubject request context
  let graph ← Attempt.readGraph context.graph
  let links := graph.values (.iri subject) property
  let patch ← relationPatch resolver request context subject property field links change
  applyPatch context patch
  return .node context.afterMutation

section Changes

variable {resolver : Resolver} {request : Request} {change : RelationChange} {field : Field}
  {suffix property : String}

/-- Changing a relation changes the links by the predicate that was found. -/
theorem changeRelation_eq (found : changedRelation resolver request suffix = .ok (field, property)) :
    changeRelation resolver request change suffix =
      changeLinks resolver request change field property := by
  unfold changeRelation changeLinks
  rw [found]
  rfl

/-- A relation that the entity has no field for is not found. -/
theorem changedRelation_of_missing {name : String} {type : ObjectType}
    (owner : request.owner.kind = .mutator name)
    (found : resolver.definition.object? name = some type)
    (missing : type.field? (Text.decapitalize suffix) = none) :
    changedRelation resolver request suffix =
      .error (.schema (.unknownType (name ++ "." ++ Text.decapitalize suffix))) := by
  unfold changedRelation Definition.object
  rw [owner]
  dsimp only
  rw [found]
  dsimp only
  rw [missing]

open Attempt ResolveError in
theorem changeLinks_failsKnown
    (declared : ∀ argument, request.field.argument? inputArgument = some argument →
      ∃ type, resolver.definition.input argument.type.name = .ok type) :
    (changeLinks resolver request change field property).FailsOnly Known := by
  refine (failsOnly_lift (context_allows request fun _ => nofun)).bind fun context => ?_
  refine (failsOnly_lift (namedSubject_allows request (fun _ => nofun) (fun _ => nofun) context)).bind
    fun subject => ?_
  refine (failsOnly_readGraph _).bind fun graph => ?_
  refine (relationPatch_failsKnown context subject property field _ change declared).bind
    fun patch => ?_
  exact (applyPatch_failsOnly known_transport context patch).bind fun _ => failsOnly_pure _

end Changes

/-! ### The entity of a mutator -/

section Schemas

variable {index : ShapeIndex} {definition : Definition} {name : String} {entity : ObjectType}
  {relation : Field}

/-- A field of an entity is found under its name. -/
theorem field?_of_mem_entitiesOf (mem : entity ∈ entitiesOf index) (there : relation ∈ entity.fields) :
    entity.field? relation.name = some relation := by
  have distinct : (entity.fields.map Field.name).Nodup := by
    obtain ⟨shape, -, rfl⟩ := List.mem_map.1 mem
    exact nodup_entityType index _
  exact find?_of_nodup distinct there

/-- An entity is found under its name, unless a root has the name. -/
theorem object?_of_mem_entitiesOf (isOf : definition.IsOf index) (mem : entity ∈ entitiesOf index)
    (notQuery : entity.name ≠ queryType) (notMutation : entity.name ≠ mutationType) :
    definition.object? entity.name = some entity := by
  rw [Definition.object?, isOf.objects, List.cons_append, List.cons_append]
  have query : decide ((queryOf index).name = entity.name) = false :=
    decide_eq_false notQuery.symm
  have mutation : decide ((mutationOf index).name = entity.name) = false :=
    decide_eq_false notMutation.symm
  obtain ⟨found, inSchema, first, same⟩ := exists_find?_of_mem ObjectType.name mem
  have known := mem_entitiesOf.1 inSchema
  rw [same, mem_entitiesOf.1 mem] at known
  rw [List.find?_cons, query, List.find?_cons, mutation, List.find?_append, first]
  exact congrArg some (Option.some.inj known).symm

/-- The fields of the roots stand for no predicate. -/
theorem property?_of_object?_root (isOf : definition.IsOf index)
    (root : name = queryType ∨ name = mutationType) {type : ObjectType}
    (found : definition.object? name = some type) {field : Field} (mem : field ∈ type.fields) :
    field.property? = none := by
  have first : type = queryOf index ∨ type = mutationOf index := by
    rcases root with rfl | rfl
    · exact Or.inl (Option.some.inj (found.symm.trans isOf.object?_queryType))
    · exact Or.inr (Option.some.inj (found.symm.trans isOf.object?_mutationType))
  rcases first with rfl | rfl
  · obtain ⟨entity, -, mem⟩ := List.mem_flatMap.1 mem
    have unread : ∀ field ∈ Generation.queryFields entity, field.property? = none := by
      simp [Generation.queryFields, Field.property?]
    exact unread field mem
  · obtain ⟨entity, -, mem⟩ := List.mem_flatMap.1 mem
    have unread : ∀ field ∈ mutationFieldsOf entity, field.property? = none := by
      simp [mutationFieldsOf, Field.property?]
    exact unread field mem

/-- The input of the creation of an entity that is linked by a relation is in the schema. -/
theorem exists_input_of_relation (isOf : definition.IsOf index) (mem : entity ∈ entitiesOf index)
    (there : relation ∈ entity.fields) (isRelation : relation.isRelation = true) :
    ∃ type, definition.input (createInputName relation.type.name) = .ok type := by
  have needed : createInputName relation.type.name ∈ schemaNeeds index := by
    refine List.mem_flatMap.2 ⟨entity, mem, List.mem_cons_of_mem _ (List.mem_append_right _ ?_)⟩
    exact List.mem_flatMap.2 ⟨relation, List.mem_filter.2 ⟨there, isRelation⟩, List.mem_singleton_self _⟩
  obtain ⟨type, mem, same⟩ := isOf.exists_input needed
  obtain ⟨first, -, found, -⟩ := exists_find?_of_mem InputType.name mem
  exact ⟨first, Definition.input_eq_ok_iff.2 (same ▸ found)⟩

/-! ### Looking the relation up -/

/-- The relation that is looked up for a change is the one that the field was made for, if and only if
the relation starts with no capital letter and its entity is not looked up as a root. -/
theorem changedRelation_eq_ok_iff {resolver : Resolver} {request : Request} {property : String}
    (isOf : resolver.definition.IsOf index) (mem : entity ∈ entitiesOf index)
    (owner : request.owner = mutatorOf index entity) (there : relation ∈ entity.fields)
    (stands : relation.property? = some property) :
    changedRelation resolver request (Text.capitalize relation.name) = .ok (relation, property) ↔
      Text.decapitalize relation.name = relation.name ∧
        entity.name ≠ queryType ∧ entity.name ≠ mutationType := by
  have kind : request.owner.kind = .mutator entity.name := by rw [owner, mutatorOf]
  unfold changedRelation Definition.object
  rw [kind, Text.decapitalize_capitalize]
  dsimp only
  constructor
  · intro found
    cases known : resolver.definition.object? entity.name with
    | none =>
      rw [known] at found
      cases found
    | some type =>
      rw [known] at found
      dsimp only at found
      split at found
      · cases found
      rename_i field first
      split at found
      · cases found
      rename_i predicate read
      cases found
      have same : relation.name = Text.decapitalize relation.name := by
        simpa using List.find?_some first
      refine ⟨same.symm, not_or.1 fun root => ?_⟩
      rw [property?_of_object?_root isOf root known (List.mem_of_find?_eq_some first)] at read
      cases read
  · rintro ⟨lower, notQuery, notMutation⟩
    rw [object?_of_mem_entitiesOf isOf mem notQuery notMutation]
    dsimp only
    rw [lower, field?_of_mem_entitiesOf mem there]
    dsimp only
    rw [stands]

/-- The name of a relation of an entity of a shapes graph is not empty. -/
theorem name_ne_nil_of_relation {triples : List Triple}
    (made : ShapeIndex.ofTriples triples = .ok index) (mem : entity ∈ entitiesOf index)
    (there : relation ∈ entity.fields) (isRelation : relation.isRelation = true) :
    relation.name.toList ≠ [] := by
  obtain ⟨shape, named, rfl⟩ := Option.map_eq_some_iff.1 (mem_entitiesOf.1 mem)
  obtain ⟨property, stated, cls, other, -, -, rfl⟩ := exists_relation_of_mem there isRelation
  exact (ShapeIndex.isName_of_mem_properties made (List.mem_of_find?_eq_some named) stated).1

/-! ### Understood fields -/

/-- A resolver understands a field of a mutator as a change of a relation. -/
structure Resolver.Understands (resolver : Resolver) (request : Request) (relation : Field)
    (change : RelationChange) : Prop where
  /-- The relation is what is looked up under the name after the verb. -/
  found : ∃ property, relation.property? = some property ∧
    changedRelation resolver request (MutationKind.ofName request.field.name).2 =
      .ok (relation, property)
  /-- Unless a change was made on the way to the field, the links by the predicate of the relation
  are changed. -/
  changes : request.isHandled = false → ∀ property, relation.property? = some property →
    resolver.resolve request = changeLinks resolver request change relation property
  /-- Whatever the field fails with, it is not an unknown type. -/
  known : ∀ {σ : Type} (client : Client σ) (world : World σ) (name : String),
    ((resolver.resolve request).runIn client world).1 ≠ .error (.schema (.unknownType name))

section Understood

variable {resolver : Resolver} {request : Request} {change : RelationChange}

/-- The name of a field of a mutator is taken apart into its verb and the name of its relation. -/
theorem ofName_mutatorField (returned : TypeExpr) (nonempty : relation.name.toList ≠ [])
    (change : RelationChange) :
    MutationKind.ofName (mutatorField returned relation change).name =
      (.relation change, Text.capitalize relation.name) :=
  ofName_append change.mem_verbs (Text.capitalize_ne_empty nonempty)

/-- A field of a mutator is an entry point. -/
theorem not_reads_mutatorField (returned : TypeExpr) (relation : Field) (change : RelationChange) :
    ¬ Reads (mutatorField returned relation change) := by
  rintro (identifier | stands)
  · cases identifier
  · cases stands

/-- A field of a mutator asks for its change, unless one was made on the way to it. -/
theorem mutates_of_mutatorField {returned : TypeExpr}
    (owner : request.owner.kind = .mutator name)
    (field : request.field = mutatorField returned relation change)
    (nonempty : relation.name.toList ≠ []) (unhandled : request.isHandled = false) :
    request.Mutates (.relation change) := by
  refine ⟨?_, unhandled, field ▸ not_reads_mutatorField returned relation change, ?_⟩
  · rw [Request.isMutation, owner]
    exact Bool.or_true _
  · rw [field, ofName_mutatorField returned nonempty change]

/-- A field whose relation is found is understood. -/
theorem understands_of_found {property : String} (isOf : resolver.definition.IsOf index)
    (mem : entity ∈ entitiesOf index) (there : relation ∈ entity.fields)
    (isRelation : relation.isRelation = true) (owner : request.owner = mutatorOf index entity)
    (field : request.field = mutatorField (returnedBy entity) relation change)
    (nonempty : relation.name.toList ≠ []) (stands : relation.property? = some property)
    (found : changedRelation resolver request (Text.capitalize relation.name) =
      .ok (relation, property)) :
    resolver.Understands request relation change := by
  have named := ofName_mutatorField (returnedBy entity) nonempty change
  rw [← field] at named
  have kind : request.owner.kind = .mutator entity.name := by rw [owner, mutatorOf]
  have resolved (unhandled : request.isHandled = false) :
      resolver.resolve request = changeLinks resolver request change relation property := by
    rw [resolve_of_mutates (mutates_of_mutatorField kind field nonempty unhandled), named,
      performedBy]
    exact changeRelation_eq found
  refine ⟨⟨property, stands, by rw [named]; exact found⟩, fun unhandled other same => ?_,
    fun client world name failed => ?_⟩
  · obtain rfl := Option.some.inj (stands.symm.trans same)
    exact resolved unhandled
  · have declared (argument : Argument)
        (asked : request.field.argument? inputArgument = some argument) :
        ∃ type, resolver.definition.input argument.type.name = .ok type := by
      rw [field] at asked
      rw [argument?_mutatorField asked]
      exact exists_input_of_relation isOf mem there isRelation
    have fails : (resolver.resolve request).FailsOnly ResolveError.Known := by
      cases handled : request.isHandled with
      | true =>
        rw [resolve_of_not_reads (field ▸ not_reads_mutatorField _ _ _), handled, Bool.not_true,
          Bool.and_false]
        exact entryPoint_failsKnown resolver request
      | false =>
        rw [resolved handled]
        exact changeLinks_failsKnown declared
    exact fails.runIn client world _ failed name rfl

end Understood

end Schemas

/-- Each field of a mutator removes or updates its entity or makes a change of a relation of the
entity, and there is one for each change. Its name is always taken apart into the verb of the change
and the capitalised name of the relation; it is understood if and only if the relation starts with no
capital letter and the entity has not the name of a root. -/
theorem relation_mutator_understood_iff {triples : List Triple} {index : ShapeIndex}
    {definition : Definition} {mutator : ObjectType} {name : String}
    (made : ShapeIndex.ofTriples triples = .ok index)
    (generated : Definition.ofIndex index = .ok definition)
    (mem : mutator ∈ definition.objects) (kind : mutator.kind = .mutator name) :
    ∃ entity ∈ definition.objects, entity.kind = .entity ∧ entity.name = name ∧
      (∀ field ∈ mutator.fields, field.name = "delete" ∨ field.name = "update" ∨
        ∃ relation ∈ entity.fields, relation.isRelation = true ∧ ∃ change ∈ changesOf relation,
          field = mutatorField (returnedBy entity) relation change) ∧
      ∀ relation ∈ entity.fields, relation.isRelation = true → ∀ change ∈ changesOf relation,
        let field := mutatorField (returnedBy entity) relation change
        field ∈ mutator.fields ∧
          MutationKind.ofName field.name = (.relation change, Text.capitalize relation.name) ∧
          ∀ target? arguments parent,
            Resolver.Understands ⟨definition, target?⟩ ⟨mutator, field, arguments, parent⟩ relation
                change ↔
              Text.decapitalize relation.name = relation.name ∧
                name ≠ queryType ∧ name ≠ mutationType := by
  have isOf : definition.IsOf index := ShapeIndex.isOf_of_ofIndex made generated
  obtain ⟨entity, inSchema, rfl, rfl⟩ := isOf.exists_entity_of_mutator mem kind
  obtain ⟨member, isEntity⟩ := isOf.mem_entitiesOf_iff.1 inSchema
  refine ⟨entity, member, isEntity, rfl, fun field there => ?_,
    fun relation there isRelation change possible => ?_⟩
  · rcases mem_mutatorFields.1 there with rfl | update | changed
    · exact Or.inl rfl
    · exact Or.inr (Or.inl (congrArg Field.name (eq_of_mem_updateFields update)))
    · exact Or.inr (Or.inr changed)
  · have nonempty := name_ne_nil_of_relation made inSchema there isRelation
    have named := ofName_mutatorField (returnedBy entity) nonempty change
    refine ⟨mem_mutatorFields.2 (Or.inr (Or.inr ⟨relation, there, isRelation, change, possible, rfl⟩)),
      named, fun target? arguments parent => ?_⟩
    obtain ⟨property, stands⟩ := Option.isSome_iff_exists.1 (Bool.and_eq_true_iff.1 isRelation).1
    let resolver : Resolver := ⟨definition, target?⟩
    let request : Request :=
      ⟨mutatorOf index entity, mutatorField (returnedBy entity) relation change, arguments, parent⟩
    have found : changedRelation resolver request (Text.capitalize relation.name) =
        .ok (relation, property) ↔ _ := changedRelation_eq_ok_iff isOf inSchema rfl there stands
    constructor
    · rintro ⟨⟨other, same, looked⟩, -, -⟩
      obtain rfl := Option.some.inj (stands.symm.trans same)
      rw [named] at looked
      exact found.1 looked
    · intro plain
      exact understands_of_found isOf inSchema there isRelation rfl rfl nonempty stands
        (found.2 plain)

/-! ### Contacts who know each other -/

/-- The triples of a shape of contacts with one relation, whose name is stated. -/
def knowingTriples (name : String) : List Triple :=
  let shape := Node.iri "http://example.org/shapes#ContactShape"
  let property := Node.blank "b0"
  [Graph.typing shape Shacl.nodeShape, ⟨shape, Shacl.targetClass, .iri AddressBook.person⟩,
   ⟨shape, Shacl.property, .node property⟩, ⟨property, Shacl.name, .literal (.simple name)⟩,
   ⟨property, Shacl.path, .iri "http://schema.org/knows"⟩,
   ⟨property, Shacl.valueClass, .iri AddressBook.person⟩]

/-- The index of the shape. -/
def knowingIndex (name : String) : ShapeIndex :=
  (ShapeIndex.ofTriples (knowingTriples name)).toOption.getD default

/-- The schema of the shape. -/
def knowingSchema (name : String) : Definition :=
  (Definition.ofIndex (knowingIndex name)).toOption.getD default

theorem ofTriples_knowingTriples (name : String) :
    ShapeIndex.ofTriples (knowingTriples name) = .ok (knowingIndex name) :=
  ShapeIndex.ofTriples_eq_indexOf _

theorem ofIndex_knowingIndex (name : String) :
    Definition.ofIndex (knowingIndex name) = .ok (knowingSchema name) :=
  ShapeIndex.ofIndex_eq_schemaOf _

/-- The mutator of the contacts. -/
def knowingMutator (name : String) : ObjectType :=
  ((knowingSchema name).object? "ContactMutation").getD default

/-- The type of the contacts. -/
def knowingContact (name : String) : ObjectType :=
  ((knowingSchema name).object? "Contact").getD default

/-- The relation of the contacts. -/
def knowingRelation (name : String) : Field :=
  ((knowingContact name).field? name).getD default

/-- A request to link a contact to another one by the relation. -/
def linkRequest (name : String) : Request where
  owner := knowingMutator name
  field := mutatorField (returnedBy (knowingContact name)) (knowingRelation name) .link
  arguments := [(identifierField, .string "http://example.org/contacts/ada#joe")]
  parent := some AddressBook.ada

/-- The resolver of the schema. -/
def knowingResolver (name : String) : Resolver :=
  { AddressBook.resolver with definition := knowingSchema name }

/-- Under a name without a capital letter, the link is understood. -/
theorem relation_mutator_understood_iff_knows :
    knowingMutator "knows" ∈ (knowingSchema "knows").objects ∧
      (knowingMutator "knows").kind = .mutator "Contact" ∧
      (linkRequest "knows").field ∈ (knowingMutator "knows").fields ∧
      (knowingResolver "knows").Understands (linkRequest "knows") (knowingRelation "knows") .link := by
  have facts : knowingMutator "knows" ∈ (knowingSchema "knows").objects ∧
      (knowingMutator "knows").kind = .mutator "Contact" ∧
      (∀ entity ∈ (knowingSchema "knows").objects, entity.kind = .entity →
        entity = knowingContact "knows") ∧
      knowingRelation "knows" ∈ (knowingContact "knows").fields ∧
      (knowingRelation "knows").isRelation = true ∧ (knowingRelation "knows").name = "knows" := by
    decide +kernel
  obtain ⟨mem, kind, only, there, isRelation, name⟩ := facts
  obtain ⟨entity, inSchema, isEntity, -, -, understood⟩ := relation_mutator_understood_iff
    (ofTriples_knowingTriples "knows") (ofIndex_knowingIndex "knows") mem kind
  obtain rfl := only entity inSchema isEntity
  obtain ⟨made, -, iff⟩ := understood _ there isRelation .link (by simp [changesOf])
  refine ⟨mem, kind, made, (iff _ _ _).2 ?_⟩
  rw [name]
  decide

/-- Under a name with a capital letter, the link fails: its relation is looked up without it. -/
theorem linkKnows_unknown :
    knowingMutator "Knows" ∈ (knowingSchema "Knows").objects ∧
      (knowingMutator "Knows").kind = .mutator "Contact" ∧
      (linkRequest "Knows").field ∈ (knowingMutator "Knows").fields ∧
      knowingRelation "Knows" ∈ (knowingContact "Knows").fields ∧
      (knowingRelation "Knows").isRelation = true ∧
      (((knowingResolver "Knows").resolve (linkRequest "Knows")).runIn Store.client
        AddressBook.stored).1 = .error (.schema (.unknownType "Contact.knows")) := by
  have facts : knowingMutator "Knows" ∈ (knowingSchema "Knows").objects ∧
      (knowingMutator "Knows").kind = .mutator "Contact" ∧
      (linkRequest "Knows").field ∈ (knowingMutator "Knows").fields ∧
      knowingRelation "Knows" ∈ (knowingContact "Knows").fields ∧
      (knowingRelation "Knows").isRelation = true ∧ (knowingRelation "Knows").name = "Knows" ∧
      (knowingSchema "Knows").object? "Contact" = some (knowingContact "Knows") ∧
      (knowingContact "Knows").field? "knows" = none := by decide +kernel
  obtain ⟨mem, kind, made, there, isRelation, name, found, missing⟩ := facts
  refine ⟨mem, kind, made, there, isRelation, ?_⟩
  have nonempty : (knowingRelation "Knows").name.toList ≠ [] := by
    rw [name]
    decide
  have suffix : (MutationKind.ofName (linkRequest "Knows").field.name).2 = "Knows" := by
    rw [linkRequest, ofName_mutatorField _ nonempty, name]
    decide
  have lower : Text.decapitalize "Knows" = "knows" := by decide
  have missed : changedRelation (knowingResolver "Knows") (linkRequest "Knows") "Knows" =
      .error (.schema (.unknownType ("Contact" ++ "." ++ Text.decapitalize "Knows"))) :=
    changedRelation_of_missing kind found (lower ▸ missing)
  rw [resolve_of_mutates (mutates_of_mutatorField kind rfl nonempty rfl), performedBy, changeRelation,
    suffix, missed, lower]
  rfl

end LinkedShapes.Resolution
