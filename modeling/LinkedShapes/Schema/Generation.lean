import LinkedShapes.Schema.Definition
import LinkedShapes.Shape.Index

/-!
# The schema of a shapes graph

Each shape becomes an entity type with an identifier field and a field for each property that has a
usable kind. Each entity gets two query fields (one instance, all instances), a mutation that creates
an instance, and a mutator type whose fields change an instance: `delete`, `update`, and four fields
for each relation.

The types that were made are remembered by name, so that each is made once, and the names of the
input types are listed in the order in which they were first needed.
-/

namespace LinkedShapes.Schema

/-- The names made from the name of an entity. -/
def createInputName (entity : String) : String := "Create" ++ entity ++ "Input"

@[inherit_doc createInputName]
def updateInputName (entity : String) : String := "Update" ++ entity ++ "Input"

@[inherit_doc createInputName]
def mutatorName (entity : String) : String := entity ++ "Mutation"

/-! ### Types made from a shape -/

/-- The name of the type of the values of a property; none if the property is not usable. -/
def valueTypeName? (index : ShapeIndex) (property : PropertyShape) : Option String :=
  match property.kind with
  | .scalar scalar _ => some scalar.name
  | .relation cls => (index.forClass? cls).map NodeShape.name
  | .unsupported => none

/-- The field of a property whose values have a type. -/
def propertyField (property : PropertyShape) (typeName : String) : Field :=
  let type := TypeExpr.named typeName
  let type := if property.isList then type.listOf else type
  { name := property.name
    type := if property.isRequired then type.required else type
    directive := some (.property property.path) }

/-- The identifier field of an entity. -/
def identifierFieldOf : Field :=
  { name := identifierField
    type := (TypeExpr.named idType).required
    directive := some .identifier }

/-- The fields of usable properties, each name once; `taken` holds the names that are used up. -/
def propertyFields (index : ShapeIndex) (taken : List String) :
    List PropertyShape → List Field
  | [] => []
  | property :: rest =>
    match valueTypeName? index property with
    | none => propertyFields index taken rest
    | some typeName =>
      if property.name ∈ taken then propertyFields index taken rest
      else propertyField property typeName :: propertyFields index (property.name :: taken) rest

/-- The entity type of a shape. -/
def entityType (index : ShapeIndex) (shape : NodeShape) : ObjectType :=
  { name := shape.name
    kind := .entity
    cls := shape.targetClass
    fields := identifierFieldOf :: propertyFields index [identifierField] shape.properties }

/-- The input field that writes what a field reads; only scalars can be written so. -/
def Field.toInput (field : Field) (datatype : Option String) : Except SchemaError InputField :=
  match field.type.scalar? with
  | none => .error (.nonScalarInput field.name field.type.name)
  | some _ =>
    .ok { name := field.name, type := field.type, directive := field.directive,
          datatype := datatype }

/-- The datatype that a shape states for the first property of a name. -/
def datatypeOf? (shape : Option NodeShape) (name : String) : Option String :=
  (shape.bind fun s => s.properties.find? (·.name = name)).bind fun property =>
    match property.kind with
    | .scalar _ datatype => some datatype
    | _ => none

/-- Whether the values of a field are scalars of a predicate. -/
def Field.isScalarProperty (field : Field) : Bool :=
  field.property?.isSome && field.type.scalar?.isSome

/-- Whether the values of a field are entities linked by a predicate. -/
def Field.isRelation (field : Field) : Bool :=
  field.property?.isSome && field.type.scalar?.isNone

/-- The input fields that write the scalar fields of an entity. -/
def scalarInputFields (index : ShapeIndex) (entity : ObjectType) :
    Except SchemaError (List InputField) :=
  (entity.fields.filter Field.isScalarProperty).mapM fun field =>
    field.toInput (datatypeOf? (index.named? entity.name) field.name)

/-- The input of the creation of an entity: its scalar fields, an identifier and a slug. -/
def createInput (index : ShapeIndex) (entity : ObjectType) : Except SchemaError InputType := do
  let fields ← scalarInputFields index entity
  return { name := createInputName entity.name
           cls := entity.cls
           fields := fields ++ [{ name := identifierField, type := .named idType },
                                { name := slugField, type := .named Scalar.string.name }] }

/-- The input of the update of an entity: its scalar fields, none of them required. -/
def updateInput (index : ShapeIndex) (entity : ObjectType) : Except SchemaError InputType := do
  let fields ← scalarInputFields index entity
  return { name := updateInputName entity.name
           cls := entity.cls
           fields := fields.map fun field => { field with type := field.type.nullable } }

/-! ### Generating with remembered types -/

/-- The state of a generation. -/
structure Generator where
  /-- The shapes. -/
  index : ShapeIndex
  /-- The entity types made so far, by name. -/
  objects : List (String × ObjectType) := []
  /-- The input types made so far, by name. -/
  inputs : List (String × InputType) := []
  /-- The names of the input types in the order in which they were first needed. -/
  inputOrder : List String := []
  deriving Inhabited

/-- A step of a generation; what was remembered stays when a step fails. -/
abbrev Generation := ExceptT SchemaError (StateM Generator)

namespace Generator

/-- A generation of the types of an index. -/
def ofIndex (index : ShapeIndex) : Generator := { index }

/-- A generation that keeps the types made so far but not the order of the inputs. -/
def restart (generator : Generator) : Generator := { generator with inputOrder := [] }

/-- The remembered entity type of a name. -/
def object? (generator : Generator) (name : String) : Option ObjectType :=
  (generator.objects.find? (·.1 = name)).map Prod.snd

/-- The remembered input type of a name. -/
def input? (generator : Generator) (name : String) : Option InputType :=
  (generator.inputs.find? (·.1 = name)).map Prod.snd

end Generator

namespace Generation

/-- The entity type of the shape of a name. -/
def object (name : String) : Generation ObjectType := do
  let generator ← get
  match generator.object? name with
  | some type => return type
  | none =>
    match generator.index.named? name with
    | none => throw (.unknownType name)
    | some shape =>
      let type := entityType generator.index shape
      set { generator with objects := generator.objects ++ [(name, type)] }
      return type

/-- The remembered input type of a name, or the one that is made now. -/
def input (name : String) (make : ShapeIndex → Except SchemaError InputType) :
    Generation InputType := do
  let generator ← get
  match generator.input? name with
  | some type => return type
  | none =>
    match make generator.index with
    | .error e => throw e
    | .ok type =>
      set { generator with inputs := generator.inputs ++ [(name, type)] }
      return type

/-- Lists the name of an input type, if it is not listed yet. -/
def needInput (name : String) : Generation Unit :=
  modify fun generator =>
    if name ∈ generator.inputOrder then generator
    else { generator with inputOrder := generator.inputOrder ++ [name] }

/-- The input of the creation of the entity of a name. -/
def create (entity : String) : Generation InputType := do
  let type ← object entity
  needInput (createInputName entity)
  input (createInputName entity) fun index => createInput index type

/-- The input of the update of the entity of a name. -/
def update (entity : String) : Generation InputType := do
  let type ← object entity
  input (updateInputName entity) fun index => updateInput index type

/-- The identifier argument of a field that needs one. -/
def idArgument : Argument := ⟨identifierField, (TypeExpr.named idType).required⟩

/-- The argument of an input type. -/
def inputArgumentOf (inputName : String) : Argument :=
  ⟨inputArgument, (TypeExpr.named inputName).required⟩

/-- The fields that change a relation, `returned` being the type of their result: a list is added
to and removed from, a single value is set and cleared, and both are linked and unlinked. -/
def relationMutators (returned : TypeExpr) (relation : Field) : Generation (List Field) := do
  let suffix := Text.capitalize relation.name
  let input ← create relation.type.name
  let field (verb : String) (arguments : List Argument) : Field :=
    { name := verb ++ suffix, type := returned, arguments := arguments }
  let own :=
    if relation.type.list then
      [field "add" [inputArgumentOf input.name], field "remove" [idArgument]]
    else [field "set" [inputArgumentOf input.name], field "clear" []]
  return own ++ [field "link" [idArgument], field "unlink" [idArgument]]

/-- The mutator type of an entity. -/
def mutator (entity : ObjectType) : Generation ObjectType := do
  let returned := (TypeExpr.named entity.name).required
  let delete : Field := { name := "delete", type := returned }
  let input ← update entity.name
  let update : List Field ←
    if input.fields.isEmpty then pure []
    else do
      needInput input.name
      pure [{ name := "update", type := returned, arguments := [inputArgumentOf input.name] }]
  let relations ← (entity.fields.filter Field.isRelation).mapM (relationMutators returned)
  return { name := mutatorName entity.name
           kind := .mutator entity.name
           cls := entity.cls
           fields := delete :: update ++ relations.flatten }

/-- The query fields of an entity: one instance and all instances. -/
def queryFields (entity : ObjectType) : List Field :=
  let singular := Text.decapitalize entity.name
  [{ name := singular, type := .named entity.name,
     arguments := [⟨identifierField, .named idType⟩] },
   { name := singular ++ "Collection",
     type := (TypeExpr.named entity.name).required.listOf.required }]

/-- The mutation fields of an entity and its mutator type. -/
def entityMutations (entity : ObjectType) : Generation (List Field × ObjectType) := do
  let input ← create entity.name
  let mutator ← mutator entity
  let fields : List Field :=
    [{ name := "create" ++ entity.name, type := (TypeExpr.named entity.name).required,
       arguments := [inputArgumentOf input.name] },
     { name := "mutate" ++ entity.name, type := .named mutator.name,
       arguments := [idArgument] }]
  return (fields, mutator)

/-- The whole schema. -/
def definition : Generation Definition := do
  let entities ← (← get).index.shapes.mapM fun shape => object shape.name
  let mutations ← entities.mapM entityMutations
  let query : ObjectType :=
    { name := queryType, kind := .root, fields := entities.flatMap queryFields }
  let mutation : ObjectType :=
    { name := mutationType, kind := .root, fields := mutations.flatMap Prod.fst }
  let generator ← get
  return { objects := query :: mutation :: entities ++ mutations.map Prod.snd
           inputs := generator.inputOrder.filterMap generator.input? }

/-- The result of a step on a generator, and the generator after it. -/
def runOn {α : Type} (step : Generation α) (generator : Generator) :
    Except SchemaError α × Generator :=
  Id.run (StateT.run (ExceptT.run step) generator)

end Generation

/-- The schema of the shapes of an index. -/
def Definition.ofIndex (index : ShapeIndex) : Except SchemaError Definition :=
  (Generation.definition.runOn (.ofIndex index)).1

end LinkedShapes.Schema
