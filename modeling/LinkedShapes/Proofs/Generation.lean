import LinkedShapes.Schema.Generation

/-!
# What a generation makes

A generation remembers the types that it made, and a type that is remembered is not made again. What is
remembered is what would be made (`Generator.Sound`), so that a step has a result that does not depend on
what was made before it, and so has the whole schema.

## Main statements

* `Generation.Gives.bind`, `Generation.gives_mapM`: results of steps after one another.
* `Generation.gives_mutator`: the mutator type of an entity.
* `Definition.exists_ofIndex`: the schema of the shapes of a closed index is always made.
-/

namespace LinkedShapes.Schema

variable {index : ShapeIndex} {name : String} {entity type : ObjectType} {input : InputType}

/-! ### Types that are made -/

/-- The entity type of the shape of a name. -/
def entityNamed? (index : ShapeIndex) (name : String) : Option ObjectType :=
  (index.named? name).map (entityType index)

theorem name_of_entityNamed? (found : entityNamed? index name = some type) : type.name = name := by
  obtain ⟨shape, named, rfl⟩ := Option.map_eq_some_iff.1 found
  have same : decide (shape.name = name) = true := by simpa using List.find?_some named
  exact of_decide_eq_true same

/-- The input fields that write the scalar fields of an entity. -/
def scalarInputs (index : ShapeIndex) (entity : ObjectType) : List InputField :=
  (entity.fields.filter Field.isScalarProperty).map fun field =>
    { name := field.name, type := field.type, directive := field.directive,
      datatype := datatypeOf? (index.named? entity.name) field.name }

/-- The scalar fields of an entity can always be written. -/
theorem scalarInputFields_eq (index : ShapeIndex) (entity : ObjectType) :
    scalarInputFields index entity = .ok (scalarInputs index entity) := by
  unfold scalarInputFields scalarInputs
  generalize named : entity.fields.filter Field.isScalarProperty = fields
  have scalars : ∀ field ∈ fields, field.type.scalar?.isSome = true := by
    rintro field mem
    rw [← named, List.mem_filter, Field.isScalarProperty, Bool.and_eq_true] at mem
    exact mem.2.2
  clear named
  induction fields with
  | nil => rfl
  | cons field rest ih =>
    obtain ⟨scalar, known⟩ := Option.isSome_iff_exists.1 (scalars field List.mem_cons_self)
    have others := ih fun f mem => scalars f (List.mem_cons_of_mem _ mem)
    rw [List.mapM_cons, others]
    simp only [Field.toInput, known]
    rfl

/-- The input of the creation of an entity. -/
def createInputOf (index : ShapeIndex) (entity : ObjectType) : InputType :=
  { name := createInputName entity.name
    cls := entity.cls
    fields := scalarInputs index entity ++ [{ name := identifierField, type := .named idType },
                                            { name := slugField, type := .named Scalar.string.name }] }

theorem createInput_eq (index : ShapeIndex) (entity : ObjectType) :
    createInput index entity = .ok (createInputOf index entity) := by
  rw [createInput, scalarInputFields_eq]
  rfl

/-- The input of the update of an entity. -/
def updateInputOf (index : ShapeIndex) (entity : ObjectType) : InputType :=
  { name := updateInputName entity.name
    cls := entity.cls
    fields := (scalarInputs index entity).map fun field => { field with type := field.type.nullable } }

theorem updateInput_eq (index : ShapeIndex) (entity : ObjectType) :
    updateInput index entity = .ok (updateInputOf index entity) := by
  rw [updateInput, scalarInputFields_eq]
  rfl

/-- The fields that change a relation; the entity type of the relation has an input of creation. -/
def relationMutatorsOf (returned : TypeExpr) (relation : Field) : List Field :=
  let suffix := Text.capitalize relation.name
  let input := createInputName relation.type.name
  let field (verb : String) (arguments : List Argument) : Field :=
    { name := verb ++ suffix, type := returned, arguments := arguments }
  (if relation.type.list then
      [field "add" [Generation.inputArgumentOf input], field "remove" [Generation.idArgument]]
    else [field "set" [Generation.inputArgumentOf input], field "clear" []]) ++
    [field "link" [Generation.idArgument], field "unlink" [Generation.idArgument]]

/-- The type of what a mutation of an entity returns. -/
def returnedBy (entity : ObjectType) : TypeExpr := (TypeExpr.named entity.name).required

/-- The fields that update an entity: none if it has nothing that could be updated. -/
def updateFields (index : ShapeIndex) (entity : ObjectType) : List Field :=
  if (updateInputOf index entity).fields.isEmpty then []
  else [{ name := "update", type := returnedBy entity,
          arguments := [Generation.inputArgumentOf (updateInputName entity.name)] }]

/-- The fields that change the relations of an entity, for each of them. -/
def relationFields (entity : ObjectType) : List (List Field) :=
  (entity.fields.filter Field.isRelation).map (relationMutatorsOf (returnedBy entity))

/-- The fields of the mutator type of an entity. -/
def mutatorFields (index : ShapeIndex) (entity : ObjectType) : List Field :=
  { name := "delete", type := returnedBy entity } :: updateFields index entity ++
    (relationFields entity).flatten

/-- The mutator type of an entity. -/
def mutatorOf (index : ShapeIndex) (entity : ObjectType) : ObjectType :=
  { name := mutatorName entity.name
    kind := .mutator entity.name
    cls := entity.cls
    fields := mutatorFields index entity }

/-- The names of the input types that the fields of an update need. -/
def updateNeeds (index : ShapeIndex) (entity : ObjectType) : List String :=
  if (updateInputOf index entity).fields.isEmpty then [] else [updateInputName entity.name]

/-- The names of the input types that the changes of relations need. -/
def relationNeeds (entity : ObjectType) : List String :=
  (entity.fields.filter Field.isRelation).flatMap fun field => [createInputName field.type.name]

/-- The fields of the root of mutations for an entity. -/
def mutationFieldsOf (entity : ObjectType) : List Field :=
  [{ name := "create" ++ entity.name, type := returnedBy entity,
     arguments := [Generation.inputArgumentOf (createInputName entity.name)] },
   { name := "mutate" ++ entity.name, type := .named (mutatorName entity.name),
     arguments := [Generation.idArgument] }]

/-- The names of the input types that the mutations of an entity need. -/
def entityNeeds (index : ShapeIndex) (entity : ObjectType) : List String :=
  createInputName entity.name :: (updateNeeds index entity ++ relationNeeds entity)

/-- The names of the input types that are made with the mutations of an entity. -/
def entityMakes (entity : ObjectType) : List String :=
  createInputName entity.name :: updateInputName entity.name :: relationNeeds entity

/-! ### Fields of properties -/

@[simp]
theorem name_type_propertyField (property : PropertyShape) (typeName : String) :
    (propertyField property typeName).type.name = typeName := by
  unfold propertyField
  dsimp only
  cases property.isList <;> cases property.isRequired <;> rfl

section Properties

variable {taken : List String} {properties : List PropertyShape} {field : Field}

/-- A field stands for a usable property, and its name is not used up. -/
theorem exists_property_of_mem_propertyFields
    (mem : field ∈ propertyFields index taken properties) :
    ∃ property ∈ properties, ∃ typeName, valueTypeName? index property = some typeName ∧
      field = propertyField property typeName ∧ property.name ∉ taken := by
  induction properties generalizing taken with
  | nil => cases mem
  | cons property rest ih =>
    have later {used : List String} (mem : field ∈ propertyFields index used rest)
        (more : ∀ name ∈ taken, name ∈ used) :
        ∃ p ∈ property :: rest, ∃ typeName, valueTypeName? index p = some typeName ∧
          field = propertyField p typeName ∧ p.name ∉ taken := by
      obtain ⟨p, there, typeName, usable, same, free⟩ := ih mem
      exact ⟨p, List.mem_cons_of_mem _ there, typeName, usable, same, fun h => free (more _ h)⟩
    unfold propertyFields at mem
    split at mem
    · exact later mem fun _ h => h
    · rename_i typeName usable
      split at mem
      · exact later mem fun _ h => h
      · rename_i free
        rcases List.mem_cons.1 mem with rfl | mem
        · exact ⟨property, List.mem_cons_self, typeName, usable, rfl, free⟩
        · exact later mem fun _ h => List.mem_cons_of_mem _ h

/-- The fields have different names. -/
theorem nodup_propertyFields :
    ((propertyFields index taken properties).map Field.name).Nodup := by
  induction properties generalizing taken with
  | nil => exact List.nodup_nil
  | cons property rest ih =>
    unfold propertyFields
    split
    · exact ih
    · split
      · exact ih
      · rename_i free
        rw [List.map_cons, List.nodup_cons]
        refine ⟨fun mem => ?_, ih⟩
        obtain ⟨field, mem, same⟩ := List.mem_map.1 mem
        obtain ⟨other, -, typeName, -, rfl, fresh⟩ := exists_property_of_mem_propertyFields mem
        have same : other.name = property.name := same
        exact fresh (same ▸ List.mem_cons_self)

end Properties

/-- The fields of an entity type have different names. -/
theorem nodup_entityType (index : ShapeIndex) (shape : NodeShape) :
    ((entityType index shape).fields.map Field.name).Nodup := by
  refine List.nodup_cons.2 ⟨fun mem => ?_, nodup_propertyFields⟩
  obtain ⟨field, mem, same⟩ := List.mem_map.1 mem
  obtain ⟨property, -, typeName, -, rfl, free⟩ := exists_property_of_mem_propertyFields mem
  exact free (List.mem_singleton.2 same)

/-- The relation of an entity type stands for a property with values of the shape of a class. -/
theorem exists_relation_of_mem {shape : NodeShape} {field : Field}
    (mem : field ∈ (entityType index shape).fields) (isRelation : field.isRelation = true) :
    ∃ property ∈ shape.properties, ∃ cls other, property.kind = .relation cls ∧
      index.forClass? cls = some other ∧ field = propertyField property other.name := by
  rw [Field.isRelation, Bool.and_eq_true] at isRelation
  obtain ⟨stands, noScalar⟩ := isRelation
  rcases List.mem_cons.1 mem with rfl | mem
  · cases stands
  · obtain ⟨property, there, typeName, usable, rfl, -⟩ := exists_property_of_mem_propertyFields mem
    unfold valueTypeName? at usable
    cases kind : property.kind with
    | scalar scalar datatype =>
      rw [kind] at usable
      obtain rfl := Option.some.inj usable
      simp [TypeExpr.scalar?] at noScalar
    | relation cls =>
      rw [kind] at usable
      obtain ⟨other, found, rfl⟩ := Option.map_eq_some_iff.1 usable
      exact ⟨property, there, cls, other, kind, found, rfl⟩
    | unsupported =>
      rw [kind] at usable
      cases usable

/-! ### What is remembered -/

/-- What is found under a name after one more was added. -/
theorem eq_or_of_find?_append {α : Type} {items : List (String × α)} {added other : String}
    {value found : α}
    (known : ((items ++ [(added, value)]).find? (·.1 = other)).map Prod.snd = some found) :
    (items.find? (·.1 = other)).map Prod.snd = some found ∨ other = added ∧ found = value := by
  rw [List.find?_append] at known
  cases there : items.find? (·.1 = other) with
  | some item => exact Or.inl (by simpa [there] using known)
  | none =>
    refine Or.inr ?_
    by_cases same : added = other
    · subst same
      rw [there, Option.none_or] at known
      exact ⟨rfl, by simpa [eq_comm] using known⟩
    · simp [there, same] at known

/-- What was found, and what was added, is found after one more was added. -/
theorem isSome_find?_append {α : Type} {items : List (String × α)} {added other : String}
    {value : α} (there : (items.find? (·.1 = other)).isSome ∨ other = added) :
    ((items ++ [(added, value)]).find? (·.1 = other)).isSome := by
  rw [List.find?_append]
  rcases there with there | rfl
  · simp [there]
  · cases items.find? (·.1 = other) <;> simp

/-- What is told apart by a name is found under it. -/
theorem find?_of_nodup {α : Type} {named : α → String} {items : List α}
    (distinct : (items.map named).Nodup) {item : α} (mem : item ∈ items) :
    items.find? (named · = named item) = some item := by
  obtain ⟨before, after, split⟩ := List.append_of_mem mem
  rw [split, List.map_append, List.nodup_append] at distinct
  refine List.find?_eq_some_iff_append.2 ⟨decide_eq_true rfl, before, after, split, ?_⟩
  intro other earlier
  have differ := distinct.2.2 _ (List.mem_map.2 ⟨other, earlier, rfl⟩) (named item) (by simp)
  simpa using differ

/-- Something is found under the name of each member of a list. -/
theorem exists_find?_of_mem {α : Type} (named : α → String) {items : List α} {item : α}
    (mem : item ∈ items) :
    ∃ first ∈ items, items.find? (named · = named item) = some first ∧ named first = named item := by
  have there : (items.find? (named · = named item)).isSome = true :=
    List.find?_isSome.2 ⟨item, mem, decide_eq_true rfl⟩
  obtain ⟨first, found⟩ := Option.isSome_iff_exists.1 there
  exact ⟨first, List.mem_of_find?_eq_some found, found, by simpa using List.find?_some found⟩

/-- An input type is answered if one is found. -/
theorem Definition.input_eq_ok_iff {definition : Definition} {name : String} {type : InputType} :
    definition.input name = .ok type ↔ definition.input? name = some type := by
  unfold Definition.input
  cases definition.input? name <;> simp

theorem createInputName_injective : Function.Injective createInputName := by
  intro first second same
  simpa [createInputName, String.append_assoc] using same

theorem updateInputName_injective : Function.Injective updateInputName := by
  intro first second same
  simpa [updateInputName, String.append_assoc] using same

theorem createInputName_ne_updateInputName (first second : String) :
    createInputName first ≠ updateInputName second := by
  intro same
  have chars := congrArg String.toList same
  simp [createInputName, updateInputName] at chars

/-- The types that a generator remembers are those that it would make. -/
structure Generator.Sound (generator : Generator) (shapes : ShapeIndex) : Prop where
  /-- The shapes stay the same. -/
  index : generator.index = shapes
  /-- An entity type is the one of the first shape of its name. -/
  objects : ∀ name type, generator.object? name = some type → entityNamed? shapes name = some type
  /-- An input type is the one of the creation or the update of an entity. -/
  inputs : ∀ name type, generator.input? name = some type →
    ∃ entity, entityNamed? shapes entity.name = some entity ∧
      (name = createInputName entity.name ∧ type = createInputOf shapes entity ∨
        name = updateInputName entity.name ∧ type = updateInputOf shapes entity)

namespace Generator.Sound

variable {generator : Generator}

/-- At first nothing is remembered. -/
theorem ofIndex (index : ShapeIndex) : (Generator.ofIndex index).Sound index :=
  ⟨rfl, nofun, nofun⟩

/-- The remembered input of a creation. -/
theorem createInput (sound : generator.Sound index) (found : entityNamed? index name = some entity)
    (remembered : generator.input? (createInputName name) = some input) :
    input = createInputOf index entity := by
  obtain ⟨other, known, ⟨same, rfl⟩ | ⟨same, -⟩⟩ := sound.inputs _ _ remembered
  · obtain rfl := createInputName_injective same
    rw [Option.some.inj (found.symm.trans known)]
  · exact absurd same (createInputName_ne_updateInputName _ _)

/-- The remembered input of an update. -/
theorem updateInput (sound : generator.Sound index) (found : entityNamed? index name = some entity)
    (remembered : generator.input? (updateInputName name) = some input) :
    input = updateInputOf index entity := by
  obtain ⟨other, known, ⟨same, -⟩ | ⟨same, rfl⟩⟩ := sound.inputs _ _ remembered
  · exact absurd same.symm (createInputName_ne_updateInputName _ _)
  · obtain rfl := updateInputName_injective same
    rw [Option.some.inj (found.symm.trans known)]

end Generator.Sound

/-! ### Steps -/

/-- The names with some added, in order and without repetition. -/
def addNames (order names : List String) : List String :=
  names.foldl (fun order name => if name ∈ order then order else order ++ [name]) order

theorem mem_addNames {order names : List String} :
    name ∈ addNames order names ↔ name ∈ order ∨ name ∈ names := by
  induction names generalizing order with
  | nil => simp [addNames]
  | cons first rest ih =>
    rw [addNames, List.foldl_cons]
    refine ih.trans ?_
    by_cases known : first ∈ order
    · rw [if_pos known, List.mem_cons]
      refine ⟨fun h => h.imp_right Or.inr, ?_⟩
      rintro (h | rfl | h)
      · exact Or.inl h
      · exact Or.inl known
      · exact Or.inr h
    · simp [known, or_assoc]

namespace Generation

variable {α β : Type} {step : Generation α} {next : α → Generation β} {a : α} {b : β}
  {needs needs' makes makes' : List String}

/-- Whatever is remembered, the step gives a result; it needs some input types, and afterwards some
input types are remembered. -/
def Gives (step : Generation α) (index : ShapeIndex) (result : α) (needs makes : List String) :
    Prop :=
  ∀ generator : Generator, generator.Sound index → ∃ after : Generator,
    step.runOn generator = (.ok result, after) ∧ after.Sound index ∧
    after.inputOrder = addNames generator.inputOrder needs ∧
    ∀ name, (generator.input? name).isSome ∨ name ∈ makes → (after.input? name).isSome

theorem runOn_bind (step : Generation α) (next : α → Generation β) (generator : Generator) :
    (step >>= next).runOn generator =
      match step.runOn generator with
      | (.ok a, between) => (next a).runOn between
      | (.error cause, between) => (.error cause, between) := by
  have bound : (step >>= next).runOn generator =
      Id.run (StateT.run (ExceptT.bindCont next (step.runOn generator).1)
        (step.runOn generator).2) := rfl
  rw [bound]
  rcases step.runOn generator with ⟨_ | _, _⟩ <;> rfl

theorem runOn_bind_of_ok {generator between : Generator}
    (ran : step.runOn generator = (.ok a, between)) :
    (step >>= next).runOn generator = (next a).runOn between := by
  rw [runOn_bind, ran]

theorem gives_pure (index : ShapeIndex) (a : α) : Gives (pure a) index a [] [] := fun generator sound =>
  ⟨generator, rfl, sound, rfl, by simp⟩

/-- One step after another. -/
theorem Gives.bind (first : step.Gives index a needs makes)
    (second : (next a).Gives index b needs' makes') :
    (step >>= next).Gives index b (needs ++ needs') (makes ++ makes') := by
  intro generator sound
  obtain ⟨between, ran, sound, order, remembers⟩ := first generator sound
  obtain ⟨after, ran', sound, order', remembers'⟩ := second between sound
  refine ⟨after, ?_, sound, ?_, fun name h => ?_⟩
  · exact (runOn_bind_of_ok ran).trans ran'
  · rw [order', order, addNames, addNames, addNames, List.foldl_append]
  · rcases h with h | h
    · exact remembers' name (Or.inl (remembers name (Or.inl h)))
    · rcases List.mem_append.1 h with h | h
      · exact remembers' name (Or.inl (remembers name (Or.inr h)))
      · exact remembers' name (Or.inr h)

/-- The same step for each item of a list. -/
theorem gives_mapM {items : List α} {f : α → Generation β} (result : α → β)
    (needed made : α → List String)
    (each : ∀ a ∈ items, (f a).Gives index (result a) (needed a) (made a)) :
    (items.mapM f).Gives index (items.map result) (items.flatMap needed) (items.flatMap made) := by
  induction items with
  | nil => exact gives_pure index []
  | cons first rest ih =>
    rw [List.mapM_cons]
    have others := ih fun a mem => each a (List.mem_cons_of_mem _ mem)
    have last : (rest.mapM f >>= fun bs => pure (result first :: bs)).Gives index
        (result first :: rest.map result) (rest.flatMap needed ++ []) (rest.flatMap made ++ []) :=
      others.bind (gives_pure index _)
    have whole : (f first >>= fun b => rest.mapM f >>= fun bs => pure (b :: bs)).Gives index
        (result first :: rest.map result) (needed first ++ (rest.flatMap needed ++ []))
        (made first ++ (rest.flatMap made ++ [])) :=
      (each first List.mem_cons_self).bind last
    simpa using whole

theorem runOn_object (name : String) (generator : Generator) :
    (object name).runOn generator =
      match generator.object? name with
      | some type => (.ok type, generator)
      | none =>
        match generator.index.named? name with
        | none => (.error (.unknownType name), generator)
        | some shape =>
          (.ok (entityType generator.index shape),
            { generator with
              objects := generator.objects ++ [(name, entityType generator.index shape)] }) := by
  unfold object
  rw [runOn_bind]
  change (match generator.object? name with | some type => _ | none => _ : Generation _).runOn _ = _
  cases generator.object? name with
  | some type => rfl
  | none => cases generator.index.named? name <;> rfl

theorem runOn_input (name : String) (make : ShapeIndex → Except SchemaError InputType)
    (generator : Generator) :
    (Generation.input name make).runOn generator =
      match generator.input? name with
      | some type => (.ok type, generator)
      | none =>
        match make generator.index with
        | .error cause => (.error cause, generator)
        | .ok type =>
          (.ok type, { generator with inputs := generator.inputs ++ [(name, type)] }) := by
  unfold Generation.input
  rw [runOn_bind]
  change (match generator.input? name with | some type => _ | none => _ : Generation _).runOn _ = _
  cases generator.input? name with
  | some type => rfl
  | none => cases make generator.index <;> rfl

/-- The entity type of a name. -/
theorem gives_object (found : entityNamed? index name = some type) :
    (object name).Gives index type [] [] := by
  intro generator sound
  rw [runOn_object]
  cases remembered : generator.object? name with
  | some other =>
    obtain rfl : type = other :=
      Option.some.inj (found.symm.trans (sound.objects name other remembered))
    exact ⟨generator, rfl, sound, rfl, by simp⟩
  | none =>
    obtain ⟨shape, named, rfl⟩ := Option.map_eq_some_iff.1 found
    rw [sound.index, named]
    refine ⟨_, rfl, ⟨rfl, fun other type known => ?_, sound.inputs⟩, rfl,
      fun _ h => h.resolve_right List.not_mem_nil⟩
    rcases eq_or_of_find?_append known with known | ⟨rfl, rfl⟩
    · exact sound.objects other type known
    · exact found

/-- The input of the creation or the update of an entity; `make` is how it is made. -/
theorem gives_input {make : ShapeIndex → Except SchemaError InputType}
    (makes : make index = .ok input)
    (known : ∀ generator : Generator, generator.Sound index →
      ∀ other, generator.input? name = some other → other = input)
    (right : ∃ entity, entityNamed? index entity.name = some entity ∧
      (name = createInputName entity.name ∧ input = createInputOf index entity ∨
        name = updateInputName entity.name ∧ input = updateInputOf index entity)) :
    (Generation.input name make).Gives index input [] [name] := by
  intro generator sound
  rw [runOn_input]
  cases remembered : generator.input? name with
  | some other =>
    obtain rfl : other = input := known generator sound other remembered
    refine ⟨generator, rfl, sound, rfl, fun n h => h.elim id fun mem => ?_⟩
    obtain rfl := List.mem_singleton.1 mem
    rw [remembered]
    rfl
  | none =>
    rw [sound.index, makes]
    refine ⟨_, rfl, ⟨rfl, sound.objects, fun other type known => ?_⟩, rfl, fun n h => ?_⟩
    · rcases eq_or_of_find?_append known with known | ⟨rfl, rfl⟩
      · exact sound.inputs other type known
      · exact right
    · change (Option.map Prod.snd ((generator.inputs ++ [(name, input)]).find? (·.1 = n))).isSome
      rw [Option.isSome_map]
      refine isSome_find?_append (h.imp (fun there => ?_) List.mem_singleton.1)
      rwa [Generator.input?, Option.isSome_map] at there

/-- The need of an input type. -/
theorem gives_needInput (index : ShapeIndex) (name : String) :
    (needInput name).Gives index () [name] [] := by
  intro generator sound
  refine ⟨if name ∈ generator.inputOrder then generator
    else { generator with inputOrder := generator.inputOrder ++ [name] }, rfl, ?_, ?_, ?_⟩
  · split
    · exact sound
    · exact ⟨sound.index, sound.objects, sound.inputs⟩
  · by_cases listed : name ∈ generator.inputOrder <;> simp [addNames, listed]
  · intro other h
    have there := h.resolve_right List.not_mem_nil
    split <;> exact there

/-- The input of the creation of the entity of a name. -/
theorem gives_create (found : entityNamed? index name = some type) :
    (create name).Gives index (createInputOf index type) [createInputName name]
      [createInputName name] := by
  have made : (Generation.input (createInputName name) fun index => createInput index type).Gives
      index (createInputOf index type) [] [createInputName name] := by
    refine gives_input (createInput_eq index type) (fun _ sound _ => sound.createInput found) ?_
    have same := name_of_entityNamed? found
    rw [← same] at found ⊢
    exact ⟨type, found, Or.inl ⟨rfl, rfl⟩⟩
  exact (gives_object found).bind ((gives_needInput index _).bind made)

/-- The input of the update of the entity of a name. -/
theorem gives_update (found : entityNamed? index name = some type) :
    (update name).Gives index (updateInputOf index type) [] [updateInputName name] := by
  have made : (Generation.input (updateInputName name) fun index => updateInput index type).Gives
      index (updateInputOf index type) [] [updateInputName name] := by
    refine gives_input (updateInput_eq index type) (fun _ sound _ => sound.updateInput found) ?_
    have same := name_of_entityNamed? found
    rw [← same] at found ⊢
    exact ⟨type, found, Or.inr ⟨rfl, rfl⟩⟩
  exact (gives_object found).bind made

/-- The fields that change a relation to entities of a shape. -/
theorem gives_relationMutators {relation : Field} (returned : TypeExpr)
    (found : entityNamed? index relation.type.name = some type) :
    (relationMutators returned relation).Gives index (relationMutatorsOf returned relation)
      [createInputName relation.type.name] [createInputName relation.type.name] := by
  have input : (createInputOf index type).name = createInputName relation.type.name :=
    congrArg createInputName (name_of_entityNamed? found)
  unfold relationMutators
  refine (gives_create found).bind ?_
  simp only [input]
  exact gives_pure index (relationMutatorsOf returned relation)

/-- The fields that update an entity, and what is made of them. -/
theorem gives_updateFields_bind {next : List Field → Generation β}
    (rest : (next (updateFields index entity)).Gives index b needs makes) :
    (if (updateInputOf index entity).fields.isEmpty then do
        let update ← pure []
        next update
      else do
        needInput (updateInputOf index entity).name
        let update ← pure [{ name := "update", type := returnedBy entity,
                             arguments := [inputArgumentOf (updateInputOf index entity).name] }]
        next update : Generation β).Gives index b (updateNeeds index entity ++ needs) makes := by
  unfold updateFields at rest
  unfold updateNeeds
  split
  · rename_i empty
    rw [if_pos empty] at rest
    exact (gives_pure index _).bind rest
  · rename_i some
    rw [if_neg some] at rest
    exact (gives_needInput index _).bind ((gives_pure index _).bind rest)

/-- The mutator type of an entity whose relations are to entities of shapes. -/
theorem gives_mutator (found : entityNamed? index entity.name = some entity)
    (linked : ∀ field ∈ entity.fields, field.isRelation = true →
      ∃ type, entityNamed? index field.type.name = some type) :
    (mutator entity).Gives index (mutatorOf index entity)
      (updateNeeds index entity ++ relationNeeds entity)
      (updateInputName entity.name :: relationNeeds entity) := by
  have relations : ((entity.fields.filter Field.isRelation).mapM
      (relationMutators (returnedBy entity))).Gives index
      ((entity.fields.filter Field.isRelation).map (relationMutatorsOf (returnedBy entity)))
      (relationNeeds entity) (relationNeeds entity) := by
    refine gives_mapM _ _ _ fun field mem => ?_
    obtain ⟨mem, isRelation⟩ := List.mem_filter.1 mem
    obtain ⟨type, known⟩ := linked field mem isRelation
    exact gives_relationMutators _ known
  have whole : (mutator entity).Gives index (mutatorOf index entity)
      ([] ++ (updateNeeds index entity ++ (relationNeeds entity ++ [])))
      ([updateInputName entity.name] ++ (relationNeeds entity ++ [])) := by
    unfold mutator mutatorOf mutatorFields
    refine (gives_update found).bind ?_
    exact gives_updateFields_bind (relations.bind (gives_pure index _))
  simpa using whole

/-- The mutation fields of an entity and its mutator type. -/
theorem gives_entityMutations (found : entityNamed? index entity.name = some entity)
    (linked : ∀ field ∈ entity.fields, field.isRelation = true →
      ∃ type, entityNamed? index field.type.name = some type) :
    (entityMutations entity).Gives index (mutationFieldsOf entity, mutatorOf index entity)
      (entityNeeds index entity) (entityMakes entity) := by
  have whole : (entityMutations entity).Gives index (mutationFieldsOf entity, mutatorOf index entity)
      ([createInputName entity.name] ++ ((updateNeeds index entity ++ relationNeeds entity) ++ []))
      ([createInputName entity.name] ++ ((updateInputName entity.name :: relationNeeds entity) ++ [])) :=
    (gives_create found).bind ((gives_mutator found linked).bind (gives_pure index _))
  simpa [entityNeeds, entityMakes] using whole

end Generation

/-! ### The whole schema -/

/-- The entity types of the shapes; shapes of one name have the type of the first one. -/
def entitiesOf (index : ShapeIndex) : List ObjectType :=
  index.shapes.map fun shape => entityType index ((index.named? shape.name).getD shape)

/-- The shapes of classes are among the shapes. -/
def Closed (index : ShapeIndex) : Prop :=
  ∀ cls shape, index.forClass? cls = some shape → shape ∈ index.shapes

/-- The first shape of the name of a shape. -/
theorem exists_named?_of_mem {shape : NodeShape} (mem : shape ∈ index.shapes) :
    ∃ first ∈ index.shapes, index.named? shape.name = some first ∧ first.name = shape.name :=
  exists_find?_of_mem NodeShape.name mem

theorem entityNamed?_of_mem {shape : NodeShape} (mem : shape ∈ index.shapes) :
    entityNamed? index shape.name =
      some (entityType index ((index.named? shape.name).getD shape)) := by
  obtain ⟨first, -, named, -⟩ := exists_named?_of_mem mem
  simp [entityNamed?, named]

/-- The entity type of a name is one of the schema. -/
theorem mem_entitiesOf : entity ∈ entitiesOf index ↔ entityNamed? index entity.name = some entity := by
  constructor
  · intro mem
    obtain ⟨shape, inShapes, rfl⟩ := List.mem_map.1 mem
    have known := entityNamed?_of_mem inShapes
    rwa [name_of_entityNamed? known]
  · intro known
    obtain ⟨shape, named, same⟩ := Option.map_eq_some_iff.1 known
    have mem : shape ∈ index.shapes := List.mem_of_find?_eq_some named
    have name : shape.name = entity.name := congrArg ObjectType.name same
    refine List.mem_map.2 ⟨shape, mem, ?_⟩
    rw [name, named]
    exact same

/-- Each shape has an entity type of its name. -/
theorem exists_entity_of_mem {shape : NodeShape} (mem : shape ∈ index.shapes) :
    ∃ entity ∈ entitiesOf index, entity.name = shape.name :=
  ⟨_, List.mem_map.2 ⟨shape, mem, rfl⟩, name_of_entityNamed? (entityNamed?_of_mem mem)⟩

/-- The relations of an entity are to entities of the schema. -/
theorem Closed.linked (closed : Closed index) (mem : entity ∈ entitiesOf index) {field : Field}
    (there : field ∈ entity.fields) (isRelation : field.isRelation = true) :
    ∃ type, entityNamed? index field.type.name = some type := by
  obtain ⟨shape, -, rfl⟩ := List.mem_map.1 mem
  obtain ⟨property, -, cls, other, -, found, rfl⟩ := exists_relation_of_mem there isRelation
  rw [name_type_propertyField]
  exact ⟨_, entityNamed?_of_mem (closed cls other found)⟩

/-- The root of queries. -/
def queryOf (index : ShapeIndex) : ObjectType :=
  { name := queryType, kind := .root, fields := (entitiesOf index).flatMap Generation.queryFields }

/-- The root of mutations. -/
def mutationOf (index : ShapeIndex) : ObjectType :=
  { name := mutationType, kind := .root, fields := (entitiesOf index).flatMap mutationFieldsOf }

/-- The names of the input types that a schema needs, in the order in which they are needed. -/
def schemaNeeds (index : ShapeIndex) : List String :=
  (entitiesOf index).flatMap (entityNeeds index)

/-- A definition is the schema of the shapes of an index. -/
structure Definition.IsOf (definition : Definition) (index : ShapeIndex) : Prop where
  /-- The roots come first, then the entities and the mutators. -/
  objects : definition.objects =
    queryOf index :: mutationOf index :: entitiesOf index ++ (entitiesOf index).map (mutatorOf index)
  /-- Each input type that is needed is there once. -/
  inputNames : definition.inputs.map InputType.name = addNames [] (schemaNeeds index)
  /-- The input types are those of the creation and the update of entities. -/
  inputs : ∀ type ∈ definition.inputs, ∃ entity ∈ entitiesOf index,
    type = createInputOf index entity ∨ type = updateInputOf index entity

theorem kind_of_mem_entitiesOf (mem : entity ∈ entitiesOf index) : entity.kind = .entity := by
  obtain ⟨shape, -, rfl⟩ := List.mem_map.1 mem
  rfl

/-- An object type of a schema is a root, an entity or the mutator of one. -/
theorem Definition.IsOf.mem_objects_iff {definition : Definition} (isOf : definition.IsOf index)
    {type : ObjectType} :
    type ∈ definition.objects ↔ type = queryOf index ∨ type = mutationOf index ∨
      type ∈ entitiesOf index ∨ ∃ entity ∈ entitiesOf index, type = mutatorOf index entity := by
  rw [isOf.objects]
  simp only [List.cons_append, List.mem_cons, List.mem_append, List.mem_map, eq_comm]

theorem Definition.IsOf.object?_queryType {definition : Definition} (isOf : definition.IsOf index) :
    definition.object? queryType = some (queryOf index) := by
  rw [Definition.object?, isOf.objects]
  rfl

theorem Definition.IsOf.object?_mutationType {definition : Definition} (isOf : definition.IsOf index) :
    definition.object? mutationType = some (mutationOf index) := by
  rw [Definition.object?, isOf.objects]
  rfl

/-- The mutator of an entity is in the schema. -/
theorem Definition.IsOf.mutatorOf_mem {definition : Definition} (isOf : definition.IsOf index)
    (mem : entity ∈ entitiesOf index) : mutatorOf index entity ∈ definition.objects :=
  isOf.mem_objects_iff.2 (Or.inr (Or.inr (Or.inr ⟨entity, mem, rfl⟩)))

/-- The entities of a schema are the types of this kind. -/
theorem Definition.IsOf.mem_entitiesOf_iff {definition : Definition} (isOf : definition.IsOf index) :
    entity ∈ entitiesOf index ↔ entity ∈ definition.objects ∧ entity.kind = .entity := by
  rw [isOf.mem_objects_iff]
  constructor
  · intro mem
    exact ⟨Or.inr (Or.inr (Or.inl mem)), kind_of_mem_entitiesOf mem⟩
  · rintro ⟨rfl | rfl | mem | ⟨other, -, rfl⟩, kind⟩
    · cases kind
    · cases kind
    · exact mem
    · cases kind

/-- The mutators of a schema are those of its entities. -/
theorem Definition.IsOf.exists_entity_of_mutator {definition : Definition}
    (isOf : definition.IsOf index) {mutator : ObjectType} (mem : mutator ∈ definition.objects)
    (kind : mutator.kind = .mutator name) :
    ∃ entity ∈ entitiesOf index, entity.name = name ∧ mutator = mutatorOf index entity := by
  rcases isOf.mem_objects_iff.1 mem with rfl | rfl | mem | ⟨entity, inSchema, rfl⟩
  · cases kind
  · cases kind
  · rw [kind_of_mem_entitiesOf mem] at kind
    cases kind
  · cases kind
    exact ⟨entity, inSchema, rfl, rfl⟩

/-- The input types that are needed are in the schema. -/
theorem Definition.IsOf.exists_input {definition : Definition} (isOf : definition.IsOf index)
    (needed : name ∈ schemaNeeds index) : ∃ input ∈ definition.inputs, input.name = name := by
  have listed : name ∈ definition.inputs.map InputType.name := by
    rw [isOf.inputNames, mem_addNames]
    exact Or.inr needed
  exact List.mem_map.1 listed

/-- What is made for the entities is all that is needed. -/
theorem mem_makes_of_mem_schemaNeeds (needed : name ∈ schemaNeeds index) :
    name ∈ (entitiesOf index).flatMap entityMakes := by
  obtain ⟨entity, mem, needed⟩ := List.mem_flatMap.1 needed
  refine List.mem_flatMap.2 ⟨entity, mem, ?_⟩
  rcases List.mem_cons.1 needed with rfl | needed
  · exact List.mem_cons_self
  · refine List.mem_cons_of_mem _ ?_
    rcases List.mem_append.1 needed with update | relation
    · unfold updateNeeds at update
      split at update
      · cases update
      · exact List.mem_singleton.1 update ▸ List.mem_cons_self
    · exact List.mem_cons_of_mem _ relation

/-- The input types of a sound generator under some names. -/
theorem Generator.Sound.map_name_filterMap {generator : Generator} (sound : generator.Sound index)
    {names : List String} (there : ∀ name ∈ names, (generator.input? name).isSome) :
    (names.filterMap generator.input?).map InputType.name = names := by
  induction names with
  | nil => rfl
  | cons name rest ih =>
    obtain ⟨type, known⟩ := Option.isSome_iff_exists.1 (there name List.mem_cons_self)
    have others := ih fun n mem => there n (List.mem_cons_of_mem _ mem)
    have same : type.name = name := by
      obtain ⟨entity, -, ⟨rfl, rfl⟩ | ⟨rfl, rfl⟩⟩ := sound.inputs name type known <;> rfl
    rw [List.filterMap_cons_some known, List.map_cons, others, same]

/-- Whatever is remembered, the schema of a closed index is made: its object types are always the same, and
its input types are those whose names were listed before and those that it needs. -/
theorem Generation.exists_runOn_definition (closed : Closed index) {generator : Generator}
    (sound : generator.Sound index) :
    ∃ after : Generator, Generation.definition.runOn generator = (.ok
        { objects := queryOf index :: mutationOf index :: entitiesOf index ++
            (entitiesOf index).map (mutatorOf index)
          inputs := after.inputOrder.filterMap after.input? }, after) ∧
      after.Sound index ∧ after.inputOrder = addNames generator.inputOrder (schemaNeeds index) ∧
      ∀ name ∈ schemaNeeds index, (after.input? name).isSome := by
  obtain rfl := sound.index
  have entities : (generator.index.shapes.mapM fun shape => Generation.object shape.name).Gives
      generator.index (entitiesOf generator.index) (generator.index.shapes.flatMap fun _ => [])
      (generator.index.shapes.flatMap fun _ => []) :=
    Generation.gives_mapM _ _ _ fun shape mem => Generation.gives_object (entityNamed?_of_mem mem)
  have mutations : ((entitiesOf generator.index).mapM Generation.entityMutations).Gives
      generator.index ((entitiesOf generator.index).map fun entity =>
        (mutationFieldsOf entity, mutatorOf generator.index entity))
      (schemaNeeds generator.index) ((entitiesOf generator.index).flatMap entityMakes) :=
    Generation.gives_mapM _ _ _ fun entity mem =>
      Generation.gives_entityMutations (mem_entitiesOf.1 mem) fun _ => closed.linked mem
  obtain ⟨between, ran, sound, order, -⟩ := entities generator sound
  obtain ⟨after, ran', sound, order', makes⟩ := mutations between sound
  refine ⟨after, ?_, sound, ?_, fun name needed => ?_⟩
  · have started : (get : Generation Generator).runOn generator = (.ok generator, generator) := rfl
    have ended : (get : Generation Generator).runOn after = (.ok after, after) := rfl
    refine (Generation.runOn_bind_of_ok started).trans ((Generation.runOn_bind_of_ok ran).trans
      ((Generation.runOn_bind_of_ok ran').trans ((Generation.runOn_bind_of_ok ended).trans ?_)))
    simp only [List.flatMap_map, List.map_map]
    rfl
  · rw [order', order, List.flatMap_eq_nil_iff.2 fun _ _ => rfl]
    rfl
  · exact makes name (Or.inr (mem_makes_of_mem_schemaNeeds needed))

/-- The schema of a closed index is always made. -/
theorem Definition.exists_ofIndex (closed : Closed index) :
    ∃ definition, Definition.ofIndex index = .ok definition ∧ definition.IsOf index := by
  obtain ⟨after, made, sound, order, makes⟩ :=
    Generation.exists_runOn_definition closed (.ofIndex index)
  refine ⟨_, congrArg Prod.fst made, rfl, ?_, fun type mem => ?_⟩
  · refine (sound.map_name_filterMap fun name mem => ?_).trans order
    exact makes name ((mem_addNames.1 (order ▸ mem)).resolve_left List.not_mem_nil)
  · obtain ⟨name, -, known⟩ := List.mem_filterMap.1 mem
    obtain ⟨entity, found, ⟨-, same⟩ | ⟨-, same⟩⟩ := sound.inputs name type known
    · exact ⟨entity, mem_entitiesOf.2 found, Or.inl same⟩
    · exact ⟨entity, mem_entitiesOf.2 found, Or.inr same⟩

end LinkedShapes.Schema
