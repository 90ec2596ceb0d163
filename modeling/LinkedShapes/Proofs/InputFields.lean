import LinkedShapes.Proofs.FieldKinds
import LinkedShapes.Proofs.ReadBack

/-!
# The inputs of entities

Both inputs of an entity are made of its fields of scalars. An input field keeps the name, the predicate and
the type of the field, without the mark of a value that must be there in an update. The datatype is not kept
by the field; it is looked up again, under the first property that has the name. What is written through an
input field is a literal of this datatype under the predicate that the field of the entity reads. Only the
datatype of texts with a language is not kept: no input tells a language, and the texts are written as plain
ones.

## Main statements

* `Scalar.storedDatatype`: the datatype of the literals that are written.
* `InputField.Mirrors`: an input field that writes what a field of an entity shows.
* `Request.TakesInput.entered`: what a creation, an update or a new link enters of its input.
* `inputs_mirror_fields`: the input fields of the fields of an entity, and what is written through them.
-/

namespace LinkedShapes.Scalar

open Rdf

/-- The datatype of a literal that is written with a declared datatype: texts with a language are written
without one. -/
def storedDatatype (declared : String) : String :=
  if declared = RdfSyntax.langString then Xsd.string else declared

theorem exists_typed_of_literal? {scalar : Scalar} {value : Json} {datatype : String}
    {literal : Literal} (written : scalar.literal? value datatype = some literal) :
    ∃ text, scalar.lexical? value = some text ∧ literal = .typed text (storedDatatype datatype) := by
  obtain ⟨text, lexical, rfl⟩ := literal?_eq_some_iff.1 written
  refine ⟨text, lexical, ?_⟩
  unfold storedDatatype
  by_cases plain : datatype = Xsd.string
  · subst plain
    rw [if_pos (Or.inl rfl), if_neg (by decide), Literal.typed_string]
  · by_cases tagged : datatype = RdfSyntax.langString
    · rw [if_pos (Or.inr tagged), if_pos tagged, Literal.typed_string]
    · rw [if_neg (not_or.2 ⟨plain, tagged⟩), if_neg tagged]

end LinkedShapes.Scalar

namespace LinkedShapes.Schema

open Rdf Resolution

/-! ### Input fields -/

/-- A property is the first one of its name in the shape of an entity, usable or not. -/
def IsForemost (index : ShapeIndex) (entity : ObjectType) (property : PropertyShape) : Prop :=
  ∃ shape, index.named? entity.name = some shape ∧
    shape.properties.find? (·.name = property.name) = some property

/-- An input field writes what a field of an entity shows; it is marked if there must be a value. -/
structure InputField.Mirrors (written : InputField) (field : Field) (marked : Bool) : Prop where
  /-- It has the name of the field. -/
  name : written.name = field.name
  /-- It stands for the same predicate. -/
  property : written.property? = field.property?
  /-- It has values of the same type, and a list of them if the field has one. -/
  type : written.type = { field.type with nonNull := marked }

/-- An input has a field that mirrors a field of an entity, and that declares a datatype or none. -/
def InputType.HasMirror (input : InputType) (field : Field) (marked : Bool)
    (declared : Option String) : Prop :=
  ∃ written, input.field? field.name = some written ∧ written.Mirrors field marked ∧
    written.datatype = declared

/-- The input of a name has such a field. -/
def Definition.HasMirror (definition : Definition) (inputName : String) (field : Field)
    (marked : Bool) (declared : Option String) : Prop :=
  ∃ input, definition.input? inputName = some input ∧ input.HasMirror field marked declared

section Inputs

variable {index : ShapeIndex} {definition : Definition} {entity : ObjectType} {field : Field}
  {input : InputType} {scalar : Scalar} {datatype : String} {property : PropertyShape}

theorem datatypeOf?_of_isForemost (foremost : IsForemost index entity property)
    (kind : property.kind = .scalar scalar datatype) :
    datatypeOf? (index.named? entity.name) property.name = some datatype := by
  obtain ⟨shape, named, first⟩ := foremost
  rw [datatypeOf?, named, Option.bind_some, first, Option.bind_some, kind]

/-- A scalar field of an entity is written under its name. -/
theorem find?_scalarInputs (inSchema : entity ∈ entitiesOf index) (there : field ∈ entity.fields)
    (isScalar : field.isScalarProperty = true) :
    (scalarInputs index entity).find? (·.name = field.name) = some (writing index entity field) :=
  find?_of_nodup (nodup_scalarInputs inSchema)
    (mem_scalarInputs.2 ⟨field, there, isScalar, rfl⟩)

/-- The input of the creation takes the field as it is. -/
theorem field?_createInputOf (inSchema : entity ∈ entitiesOf index) (there : field ∈ entity.fields)
    (isScalar : field.isScalarProperty = true) :
    (createInputOf index entity).field? field.name = some (writing index entity field) := by
  rw [InputType.field?, createInputOf, List.find?_append, find?_scalarInputs inSchema there isScalar,
    Option.some_or]

/-- The input of the update takes it without the mark. -/
theorem field?_updateInputOf (inSchema : entity ∈ entitiesOf index) (there : field ∈ entity.fields)
    (isScalar : field.isScalarProperty = true) :
    (updateInputOf index entity).field? field.name =
      some { writing index entity field with type := field.type.nullable } := by
  have found := find?_scalarInputs inSchema there isScalar
  rw [InputType.field?, updateInputOf, List.find?_map]
  exact congrArg (Option.map _) found

/-- An input of an entity has a mirror of each scalar field, which declares the datatype of the first property
of its name. -/
theorem Definition.IsOf.hasMirror_of_mem (isOf : definition.IsOf index)
    (inSchema : entity ∈ entitiesOf index) (there : field ∈ entity.fields)
    (isScalar : field.isScalarProperty = true) (mem : input ∈ definition.inputs) :
    (input.name = createInputName entity.name → input.HasMirror field field.type.nonNull
      (datatypeOf? (index.named? entity.name) field.name)) ∧
    (input.name = updateInputName entity.name → input.HasMirror field false
      (datatypeOf? (index.named? entity.name) field.name)) := by
  obtain ⟨creates, updates⟩ := isOf.eq_inputOf inSchema mem
  refine ⟨fun named => ?_, fun named => ?_⟩
  · rw [creates named]
    exact ⟨_, field?_createInputOf inSchema there isScalar, ⟨rfl, rfl, rfl⟩, rfl⟩
  · rw [updates named]
    exact ⟨_, field?_updateInputOf inSchema there isScalar, ⟨rfl, rfl, rfl⟩, rfl⟩

/-- So whichever of its inputs it is, the input has a mirror. -/
theorem Definition.IsOf.exists_hasMirror (isOf : definition.IsOf index)
    (inSchema : entity ∈ entitiesOf index) (there : field ∈ entity.fields)
    (isScalar : field.isScalarProperty = true) (mem : input ∈ definition.inputs)
    (named : input.name = createInputName entity.name ∨ input.name = updateInputName entity.name) :
    ∃ marked, input.HasMirror field marked
      (datatypeOf? (index.named? entity.name) field.name) := by
  obtain ⟨creates, updates⟩ := isOf.hasMirror_of_mem inSchema there isScalar mem
  rcases named with named | named
  · exact ⟨_, creates named⟩
  · exact ⟨_, updates named⟩

/-- If there is an input of a name, and all of them have a mirror, then the one that is found has. -/
theorem Definition.hasMirror_of_forall {name : String} {marked : Bool} {declared : Option String}
    (mem : input ∈ definition.inputs) (named : input.name = name)
    (mirrors : ∀ input ∈ definition.inputs, input.name = name → input.HasMirror field marked declared) :
    definition.HasMirror name field marked declared := by
  subst named
  obtain ⟨first, mem, found, same⟩ := exists_find?_of_mem InputType.name mem
  exact ⟨first, found, mirrors first mem same⟩

/-- Both inputs of an entity have a mirror of each scalar field. -/
theorem Definition.IsOf.hasMirror (isOf : definition.IsOf index)
    (inSchema : entity ∈ entitiesOf index) (there : field ∈ entity.fields)
    (treats : definition.TreatsAsScalar entity field scalar)
    (isScalar : field.isScalarProperty = true) :
    definition.HasMirror (createInputName entity.name) field field.type.nonNull
        (datatypeOf? (index.named? entity.name) field.name) ∧
      definition.HasMirror (updateInputName entity.name) field false
        (datatypeOf? (index.named? entity.name) field.name) := by
  obtain ⟨creates, isInput, named, -⟩ := treats.create
  obtain ⟨updates, isInput', named', -⟩ := treats.update
  have mirrored {input : InputType} (mem : input ∈ definition.inputs) :=
    isOf.hasMirror_of_mem inSchema there isScalar mem
  exact ⟨Definition.hasMirror_of_forall isInput named fun _ mem => (mirrored mem).1,
    Definition.hasMirror_of_forall isInput' named' fun _ mem => (mirrored mem).2⟩

end Inputs

end LinkedShapes.Schema

namespace LinkedShapes.Resolution

open Rdf Ldp Schema Attempt

/-! ### What is entered through an input -/

/-- The field enters what an input tells: of an entity that it creates or updates, or of a new one that is
then linked with the entity of a context. -/
inductive Request.TakesInput (request : Request) (world : World Store) : (linked : Bool) → Prop
  /-- An entity is created or updated. -/
  | writes (writes : request.WritesInput world) : TakesInput request world false
  /-- A new entity takes the place of those that are linked, or is linked besides them. -/
  | links {change : RelationChange} {context : Context} {subject : String}
    (makes : change = .set ∨ change = .add)
    (changes : request.MutatesEntity (.relation change) context subject)
    (there : context.graph < world.graphs.size) : TakesInput request world true

/-- Of an entity a literal is told, by the graph of a context and by its document. -/
def World.Tells (world : World Store) (context : Context) (subject property : String)
    (literal : Literal) : Prop :=
  literalTriple subject property literal ∈ world.graph context.graph ∧
    literalTriple subject property literal ∈ world.resources.documentOrEmpty context.url

/-- What an input gives was entered of an entity. -/
structure Entered (world : World Store) (context : Context) (linked : Bool) (subject : String)
    (type : InputType) (values : List (String × Json)) : Prop where
  /-- The entity is that of a context. -/
  named : linked = false → context.subject = some (.iri subject)
  /-- Or else it is linked with the entity of the context. -/
  link : linked = true → ∃ parent relation, context.subject = some (.iri parent) ∧
    linkTriple parent relation subject ∈ world.graph context.graph
  /-- What is given could be written. -/
  writable : Writable type values
  /-- What is given is told. -/
  tells : ∀ property literal, type.Gives values property literal →
    world.Tells context subject property literal

section Runs

variable {world after : World Store} {resolver : Resolver} {request : Request} {result : Resolved}
  {context : Context} {linked : Bool} {subject : String} {type : InputType}
  {values : List (String × Json)}

theorem Stated.entered (stated : Stated after context subject type values) :
    Entered after context false subject type values where
  named _ := stated.named
  link := nofun
  writable := stated.writable
  tells property literal gives :=
    ⟨stated.graph property literal gives, stated.document property literal gives⟩

/-- The input of a new entity that is linked can be written. -/
theorem writable_of_returns_newLinkPatch {σ : Type} {client : Client σ} {world after : World σ}
    {property : String} {field : Field} {deletes : List Triple} {patch : Patch}
    (ran : (newLinkPatch resolver request context subject property field deletes).Returns client
      world patch after) :
    ∃ cls type values, resolver.classOf field.type.name = .ok cls ∧
      inputObject resolver request = .ok (type, values) ∧ Writable type values := by
  obtain ⟨cls, ofClass, ran⟩ := returns_lift_bind.1 ran
  obtain ⟨⟨type, values⟩, input, ran⟩ := returns_lift_bind.1 ran
  obtain ⟨minted, _, -, ran⟩ := returns_bind.1 ran
  obtain ⟨stated, states, -⟩ := returns_lift_bind.1 ran
  exact ⟨cls, type, values, ofClass, input, writable_of_statedTriples states⟩

/-- So a change that makes a new entity has found a relation, a class and an input that can be written. -/
theorem writable_of_returns_changeRelation {σ : Type} {client : Client σ} {world after : World σ}
    {change : RelationChange} {suffix : String} (makes : change = .set ∨ change = .add)
    (parent : request.parent = some context) (named : context.subject = some (.iri subject))
    (ran : (changeRelation resolver request change suffix).Returns client world result after) :
    ∃ field property cls type values, changedRelation resolver request suffix = .ok (field, property) ∧
      resolver.classOf field.type.name = .ok cls ∧
      inputObject resolver request = .ok (type, values) ∧ Writable type values := by
  obtain ⟨field, property, patch, between, changed, planned, -⟩ :=
    exists_patch_of_returns_changeRelation parent named ran
  refine ⟨field, property, ?_⟩
  rcases makes with rfl | rfl
  · obtain ⟨cls, type, values, made⟩ := writable_of_returns_newLinkPatch planned
    exact ⟨cls, type, values, changed, made⟩
  · obtain ⟨cls, type, values, made⟩ := writable_of_returns_newLinkPatch planned
    exact ⟨cls, type, values, changed, made⟩

/-- What the input of a new entity gives is entered where the entity is linked. -/
theorem entered_of_links {change : RelationChange} (makes : change = .set ∨ change = .add)
    (changes : request.MutatesEntity (.relation change) context subject)
    (there : context.graph < world.graphs.size)
    (ran : (resolver.resolve request).Returns Store.client world result after) :
    ∃ type values child, inputObject resolver request = .ok (type, values) ∧
      result = .node context.afterMutation ∧
      Entered after context.afterMutation true child type values := by
  rw [resolve_of_mutates changes.mutates] at ran
  obtain ⟨field, property, cls, type, values, changed, ofClass, input, writable⟩ :=
    writable_of_returns_changeRelation makes changes.parent changes.named ran
  obtain ⟨type', values', child, patch, input', answer, minted⟩ :=
    returns_changeRelation_of_new changes.parent there changes.named makes changed ofClass ran
  obtain ⟨rfl, rfl⟩ := Prod.mk.inj (Except.ok.inj (input.symm.trans input'))
  refine ⟨type, values, child, input, answer, ?_⟩
  constructor
  case named => exact nofun
  case link =>
    intro _
    have link : linkTriple subject property child ∈ patch.inserts :=
      (minted.inserts _).2 (.inr (.inr (Relation.linksTo_some_iff.2 rfl)))
    exact ⟨subject, property, changes.named, (minted.graph _).2 (.inr link)⟩
  case writable => exact writable
  case tells =>
    intro property literal gives
    have given : literalTriple child property literal ∈ patch.inserts :=
      (minted.inserts _).2 (.inr (.inl ⟨property, literal, gives, rfl⟩))
    exact ⟨(minted.graph _).2 (.inr given), (minted.document.document _).2 (.inr given)⟩

/-- What an input gives is entered when its request is answered. -/
theorem Request.TakesInput.entered (takes : request.TakesInput world linked)
    (ran : (resolver.resolve request).Returns Store.client world result after) :
    ∃ type values context subject, inputObject resolver request = .ok (type, values) ∧
      result = .node context ∧ Entered after context linked subject type values := by
  cases takes with
  | writes writes =>
    obtain ⟨type, values, context, subject, input, answer, stated⟩ := writes.stated ran
    exact ⟨type, values, context, subject, input, answer, stated.entered⟩
  | links makes changes there =>
    obtain ⟨type, values, child, input, answer, entered⟩ := entered_of_links makes changes there ran
    exact ⟨type, values, _, child, input, answer, entered⟩

/-- The items of a member are entered as literals of the datatype that its field declares, or of that of the
scalar. -/
theorem Entered.typed (entered : Entered after context linked subject type values) {name : String}
    {value item : Json} {field : InputField} {property : String} {scalar : Scalar}
    (there : (name, value) ∈ values) (found : type.field? name = some field)
    (stands : field.property? = some property) (isScalar : field.type.scalar? = some scalar)
    (written : item ∈ writtenValues value) :
    ∃ text, scalar.lexical? item = some text ∧ after.Tells context subject property
      (.typed text (Scalar.storedDatatype (field.datatype.getD scalar.defaultDatatype))) := by
  obtain ⟨literal, given, gives⟩ :=
    gives_of_member entered.writable there found stands isScalar written
  obtain ⟨text, lexical, rfl⟩ := Scalar.exists_typed_of_literal? given
  exact ⟨text, lexical, entered.tells property _ gives⟩

end Runs

end LinkedShapes.Resolution

namespace LinkedShapes.Schema

open Rdf Ldp Resolution Attempt

/-! ### The fields of an entity and its inputs -/

/-- A field of scalars is written as it is read: both inputs have a mirror of it, and the items that are
entered through one are literals under the predicate of the property. The datatype is that of the property,
if no other one of the name stands before it in the shape. -/
structure Definition.WritesAsRead (definition : Definition) (index : ShapeIndex) (entity : ObjectType)
    (field : Field) (property : PropertyShape) (scalar : Scalar) (datatype : String) : Prop where
  /-- The field is resolved as the scalars of the predicate. -/
  read : ∀ (resolver : Resolver) (request : Request), request.field = field →
    resolver.resolve request = scalarProperty request property.path scalar
  /-- Both inputs have a mirror of the field, with the same datatype. -/
  mirrored : ∃ declared,
    definition.HasMirror (createInputName entity.name) field field.type.nonNull declared ∧
    definition.HasMirror (updateInputName entity.name) field false declared ∧
    (IsForemost index entity property → declared = some datatype)
  /-- When a request with one of the inputs is answered, all items for the field are entered. -/
  entered : ∀ (resolver : Resolver) (request : Request) (world after : World Store) (linked : Bool)
    (result : Resolved), resolver.definition = definition → request.TakesInput world linked →
    (resolver.resolve request).Returns Store.client world result after →
    ∃ type values context subject, inputObject resolver request = .ok (type, values) ∧
      result = .node context ∧ Entered after context linked subject type values ∧
      (type.name = createInputName entity.name ∨ type.name = updateInputName entity.name →
        ∀ value, (field.name, value) ∈ values → ∀ item ∈ writtenValues value,
          ∃ text stored, scalar.lexical? item = some text ∧
            after.Tells context subject property.path (.typed text stored) ∧
            (IsForemost index entity property → stored = Scalar.storedDatatype datatype))

section Fields

variable {index : ShapeIndex} {definition : Definition} {entity : ObjectType}
  {property : PropertyShape} {typeName : String} {scalar : Scalar} {datatype : String}

theorem Definition.IsOf.writesAsRead (isOf : definition.IsOf index)
    (inSchema : entity ∈ entitiesOf index)
    (there : propertyField property typeName ∈ entity.fields)
    (kind : property.kind = .scalar scalar datatype)
    (treats : definition.TreatsAsScalar entity (propertyField property typeName) scalar) :
    definition.WritesAsRead index entity (propertyField property typeName) property scalar datatype := by
  have isScalar : (propertyField property typeName).isScalarProperty = true := by
    rw [Field.isScalarProperty, treats.type]
    rfl
  constructor
  case read => exact fun resolver request same => treats.resolved resolver request _ same rfl
  case mirrored =>
    obtain ⟨creates, updates⟩ := isOf.hasMirror inSchema there treats isScalar
    exact ⟨_, creates, updates, fun foremost => datatypeOf?_of_isForemost foremost kind⟩
  case entered =>
    intro resolver request world after linked result same takes ran
    obtain ⟨type, values, context, subject, input, answer, entered⟩ := takes.entered ran
    refine ⟨type, values, context, subject, input, answer, entered, ?_⟩
    intro named value given item written
    obtain ⟨argument, -, known, -⟩ := inputObject_eq_ok_iff.1 input
    have mem : type ∈ definition.inputs :=
      same ▸ List.mem_of_find?_eq_some (Definition.input_eq_ok_iff.1 known)
    obtain ⟨marked, mirror, found, mirrors, declared⟩ :=
      isOf.exists_hasMirror inSchema there isScalar mem named
    have isScalar : mirror.type.scalar? = some scalar := by
      rw [mirrors.type]
      exact treats.type
    obtain ⟨text, lexical, tells⟩ := entered.typed given found mirrors.property isScalar written
    refine ⟨text, _, lexical, tells, fun foremost => ?_⟩
    rw [declared.trans (datatypeOf?_of_isForemost foremost kind), Option.getD_some]

end Fields

/-- A field of an entity that stands for a predicate is made for the first usable property of its name. If it
is one of scalars, both inputs of the entity mirror it, and what is entered through them is told under the
predicate that it reads, with the datatype of the property. If it is a relation, the type of which has not
the name of a scalar, no field of the inputs that stands for a predicate has its name. -/
theorem inputs_mirror_fields {triples : List Triple} {index : ShapeIndex} {definition : Definition}
    {entity : ObjectType} {field : Field} (made : ShapeIndex.ofTriples triples = .ok index)
    (generated : Definition.ofIndex index = .ok definition) (inSchema : entity ∈ definition.entities)
    (there : field ∈ entity.fields) (stands : field.property?.isSome = true) :
    ∃ property, sourceOf? index entity field = some property ∧
      (∀ scalar datatype, property.kind = .scalar scalar datatype →
        definition.WritesAsRead index entity field property scalar datatype) ∧
      (∀ cls, property.kind = .relation cls → field.type.name ∉ Scalar.names →
        ∀ input ∈ definition.inputs,
          input.name = createInputName entity.name ∨ input.name = updateInputName entity.name →
          ∀ written ∈ input.fields, written.property?.isSome = true → written.name ≠ field.name) := by
  have isOf : definition.IsOf index := ShapeIndex.isOf_of_ofIndex made generated
  rw [isOf.entities_eq] at inSchema
  obtain ⟨property, typeName, source, usable, rfl⟩ := exists_sourceOf? inSchema there stands
  have treats := isOf.treats inSchema there usable
  refine ⟨property, source, fun scalar datatype kind => ?_, fun cls kind other => ?_⟩
  · rw [kind] at treats
    cases treats with
    | scalar treated => exact isOf.writesAsRead inSchema there kind treated
  · rw [kind] at treats
    cases treats with
    | relation linked type other treated => exact treated.inputs
    | mistaken linked type name treated =>
      have isNone : Scalar.ofName? (propertyField property typeName).type.name = none :=
        Scalar.ofName?_eq_none_iff.2 other
      cases isNone.symm.trans treated.type

/-! ### Contacts with an age or a description -/

/-- The triples of a shape of contacts, each of which must have a value of some datatype. -/
def contactTriples (localName datatype : String) : List Triple :=
  let shape := Node.iri "http://example.org/shapes#ContactShape"
  let property := Node.blank "b0"
  [Graph.typing shape Shacl.nodeShape, ⟨shape, Shacl.targetClass, .iri AddressBook.person⟩,
   ⟨shape, Shacl.property, .node property⟩,
   ⟨property, Shacl.path, .iri ("http://schema.org/" ++ localName)⟩,
   ⟨property, Shacl.datatype, .iri datatype⟩,
   ⟨property, Shacl.minCount, .literal (.simple "1")⟩]

/-- The property of the shape. -/
def contactProperty (localName datatype : String) (scalar : Scalar) : PropertyShape :=
  { name := localName, path := "http://schema.org/" ++ localName, kind := .scalar scalar datatype,
    minCount := some 1, maxCount := none }

/-- The resolver of the contacts. -/
def contactResolver (property : PropertyShape) : Resolver :=
  let shape := { AddressBook.shape with properties := [property] }
  { AddressBook.resolver with
    definition := (Definition.ofIndex { AddressBook.index with
      shapes := [shape], byClass := [(AddressBook.person, shape)] }).toOption.getD default }

/-- The type of the contacts. -/
def contactEntity (property : PropertyShape) : ObjectType :=
  ((contactResolver property).definition.object? "Contact").getD default

/-- The field of the property. -/
def contactField (property : PropertyShape) : Field :=
  ((contactEntity property).field? property.name).getD default

/-- The creation of a contact with a value of the property. -/
def contactCreation (property : PropertyShape) (value : Json) : Request :=
  let owner := ((contactResolver property).definition.object? mutationType).getD default
  { owner, field := (owner.field? "createContact").getD default,
    arguments := [(inputArgument,
      .object [(slugField, .string "joe"), (property.name, .array [value])])],
    parent := none }

/-- What there is after the creation. -/
def contactCreated (property : PropertyShape) (value : Json) : World Store :=
  (contactResolver property).settle Store.client vacant (contactCreation property value)

/-- The contact that is created. -/
def joe : Context :=
  .created "http://example.org/contacts/joe" "http://example.org/contacts/joe#joe" 0

/-- The age of a contact. -/
def ageProperty : PropertyShape := contactProperty "age" Xsd.short .int

/-- The description of a contact, in some language. -/
def descriptionProperty : PropertyShape := contactProperty "description" RdfSyntax.langString .string

/-- The age of a new contact is a short integer, which must be given when the contact is created. -/
theorem inputs_mirror_fields_age :
    (contactResolver ageProperty).definition.HasMirror "CreateContactInput" (contactField ageProperty) true
        (some Xsd.short) ∧
      (contactResolver ageProperty).definition.HasMirror "UpdateContactInput" (contactField ageProperty)
        false (some Xsd.short) ∧
      (contactCreated ageProperty (.int 42)).Tells joe "http://example.org/contacts/joe#joe"
        "http://schema.org/age" (.typed "42" Xsd.short) := by
  have generated : Definition.ofIndex (ShapeIndex.indexOf (contactTriples "age" Xsd.short)) =
      .ok (contactResolver ageProperty).definition := by
    have same : ShapeIndex.schemaOf (contactTriples "age" Xsd.short) =
        (contactResolver ageProperty).definition := by
      decide +kernel
    exact same ▸ ShapeIndex.ofIndex_eq_schemaOf _
  have facts : contactEntity ageProperty ∈ (contactResolver ageProperty).definition.entities ∧
      contactField ageProperty ∈ (contactEntity ageProperty).fields ∧
      sourceOf? (ShapeIndex.indexOf (contactTriples "age" Xsd.short)) (contactEntity ageProperty)
        (contactField ageProperty) = some ageProperty ∧
      ((ShapeIndex.indexOf (contactTriples "age" Xsd.short)).named? "Contact").bind
        (·.properties.find? (·.name = "age")) = some ageProperty := by
    decide +kernel
  obtain ⟨inSchema, there, known, first⟩ := facts
  obtain ⟨property, source, scalars, -⟩ :=
    inputs_mirror_fields (ShapeIndex.ofTriples_eq_indexOf _) generated inSchema there rfl
  obtain rfl := Option.some.inj (known.symm.trans source)
  have writes := scalars .int Xsd.short rfl
  have foremost := Option.bind_eq_some_iff.1 first
  obtain ⟨declared, creates, updates, datatype⟩ := writes.mirrored
  obtain rfl := datatype foremost
  refine ⟨creates, updates, ?_⟩
  have takes : (contactCreation ageProperty (.int 42)).TakesInput vacant false :=
    .writes (.create ⟨rfl, rfl, by decide, rfl⟩)
  have ran : ((contactResolver ageProperty).resolve (contactCreation ageProperty (.int 42))).Returns
      Store.client vacant (.node joe) (contactCreated ageProperty (.int 42)) := rfl
  obtain ⟨type, values, context, subject, input, answer, entered, stored⟩ :=
    writes.entered _ _ _ _ _ _ rfl takes ran
  obtain rfl := Resolved.node.inj answer
  obtain rfl := Node.iri.inj (Option.some.inj (entered.named rfl))
  have members : inputObject (contactResolver ageProperty) (contactCreation ageProperty (.int 42)) =
      .ok (((contactResolver ageProperty).definition.input "CreateContactInput").toOption.getD default,
        [(slugField, .string "joe"), ("age", .array [.int 42])]) := rfl
  obtain ⟨rfl, rfl⟩ := Prod.mk.inj (Except.ok.inj (members.symm.trans input))
  obtain ⟨text, stored, lexical, tells, short⟩ := stored (Or.inl rfl) (.array [.int 42])
    (List.mem_cons_of_mem _ (List.mem_singleton_self _)) (.int 42) (by simp [writtenValues, Json.isNull])
  obtain rfl : "42" = text := Option.some.inj (lexical : some _ = some text)
  obtain rfl : stored = Xsd.short := short foremost
  exact tells

/-- The description of a new contact is declared to be a text with a language, and is a plain text. -/
theorem language_not_stored :
    ShapeIndex.ofTriples (contactTriples "description" RdfSyntax.langString) =
        .ok (ShapeIndex.indexOf (contactTriples "description" RdfSyntax.langString)) ∧
      Definition.ofIndex (ShapeIndex.indexOf (contactTriples "description" RdfSyntax.langString)) =
        .ok (contactResolver descriptionProperty).definition ∧
      sourceOf? (ShapeIndex.indexOf (contactTriples "description" RdfSyntax.langString))
        (contactEntity descriptionProperty) (contactField descriptionProperty) =
        some descriptionProperty ∧
      (contactResolver descriptionProperty).definition.HasMirror "CreateContactInput"
        (contactField descriptionProperty) true (some RdfSyntax.langString) ∧
      ((contactResolver descriptionProperty).resolve
        (contactCreation descriptionProperty (.string "x"))).Returns Store.client vacant (.node joe)
        (contactCreated descriptionProperty (.string "x")) ∧
      (contactCreated descriptionProperty (.string "x")).Tells joe
        "http://example.org/contacts/joe#joe" "http://schema.org/description" (.simple "x") ∧
      ¬ (contactCreated descriptionProperty (.string "x")).Tells joe
        "http://example.org/contacts/joe#joe" "http://schema.org/description"
        (.typed "x" RdfSyntax.langString) := by
  have same : ShapeIndex.schemaOf (contactTriples "description" RdfSyntax.langString) =
      (contactResolver descriptionProperty).definition := by
    decide +kernel
  refine ⟨ShapeIndex.ofTriples_eq_indexOf _, same ▸ ShapeIndex.ofIndex_eq_schemaOf _,
    by decide +kernel, ?_, rfl, ?_, ?_⟩
  · exact ⟨_, rfl, _, rfl, ⟨rfl, rfl, rfl⟩, rfl⟩
  · unfold World.Tells
    rw [← Graph.contains_eq_true_iff, ← Graph.contains_eq_true_iff]
    decide +kernel
  · unfold World.Tells
    rw [← Graph.contains_eq_true_iff, ← Graph.contains_eq_true_iff]
    decide +kernel

end LinkedShapes.Schema
