import LinkedShapes.Schema.TypeExpr

/-!
# Schema definitions

The types of a schema. A type is known by its name and refers to others by their names alone, so
that types may refer to each other in cycles. What a type or a field stands for in the graph is
noted by a directive.
-/

namespace LinkedShapes.Schema

/-- The name of the root of queries. -/
def queryType : String := "Query"

/-- The name of the root of mutations. -/
def mutationType : String := "Mutation"

/-- The name of the type of identifiers. -/
def idType : String := "ID"

/-- The name of the field that holds the identifier of an entity. -/
def identifierField : String := "id"

/-- The name of the input field that a document or fragment is named after. -/
def slugField : String := "slug"

/-- The name of the argument that holds the input of a mutation. -/
def inputArgument : String := "input"

/-- What a type or a field stands for. -/
inductive Directive where
  /-- The identifier of the entity. -/
  | identifier
  /-- The values of a predicate. -/
  | property (iri : String)
  /-- The instances of a class. -/
  | instancesOf (cls : String)
  deriving DecidableEq, Inhabited

/-- The directive as it is written in a schema. -/
def Directive.text : Directive → String
  | .identifier => "@identifier"
  | .property iri => "@property(iri: \"" ++ iri ++ "\")"
  | .instancesOf cls => "@is(class: \"" ++ cls ++ "\")"

/-- The predicate of a field that stands for the values of one. -/
def Directive.property? : Directive → Option String
  | .property iri => some iri
  | _ => none

/-- An argument of a field. -/
structure Argument where
  /-- The name. -/
  name : String
  /-- The type. -/
  type : TypeExpr
  deriving DecidableEq, Inhabited

/-- A field of an object type. -/
structure Field where
  /-- The name. -/
  name : String
  /-- The type. -/
  type : TypeExpr
  /-- The arguments. -/
  arguments : List Argument := []
  /-- What the field stands for. -/
  directive : Option Directive := none
  deriving DecidableEq, Inhabited

/-- The first argument of a name. -/
def Field.argument? (field : Field) (name : String) : Option Argument :=
  field.arguments.find? (·.name = name)

/-- The predicate that the field stands for, if it stands for one. -/
def Field.property? (field : Field) : Option String :=
  field.directive.bind Directive.property?

/-- What an object type is for. -/
inductive ObjectKind where
  /-- The instances of a shape. -/
  | entity
  /-- The changes of one entity. -/
  | mutator (entity : String)
  /-- The queries or the mutations. -/
  | root
  deriving DecidableEq, Inhabited

/-- A type with fields. -/
structure ObjectType where
  /-- The name. -/
  name : String
  /-- What the type is for. -/
  kind : ObjectKind := .entity
  /-- The class of the instances, if there is one. -/
  cls : Option String := none
  /-- The fields. -/
  fields : List Field := []
  deriving DecidableEq, Inhabited

/-- The first field of a name. -/
def ObjectType.field? (type : ObjectType) (name : String) : Option Field :=
  type.fields.find? (·.name = name)

/-- A field of an input type. -/
structure InputField where
  /-- The name. -/
  name : String
  /-- The type. -/
  type : TypeExpr
  /-- What the field stands for. -/
  directive : Option Directive := none
  /-- The datatype of the literals that are written, if it is stated. -/
  datatype : Option String := none
  deriving DecidableEq, Inhabited

/-- The predicate that the field stands for, if it stands for one. -/
def InputField.property? (field : InputField) : Option String :=
  field.directive.bind Directive.property?

/-- A type of the input of a mutation. -/
structure InputType where
  /-- The name. -/
  name : String
  /-- The class of the instances, if there is one. -/
  cls : Option String
  /-- The fields. -/
  fields : List InputField
  deriving DecidableEq, Inhabited

/-- The first field of a name. -/
def InputType.field? (type : InputType) (name : String) : Option InputField :=
  type.fields.find? (·.name = name)

/-- Why a schema could not be made. -/
inductive SchemaError where
  /-- A field of an input has a type that is not a scalar. -/
  | nonScalarInput (field typeName : String)
  /-- There is no type of the name. -/
  | unknownType (name : String)
  /-- A type has two fields of one name. -/
  | repeatedField (field : String)
  /-- The schema can not be queried. -/
  | notExecutable
  deriving DecidableEq, Inhabited

/-- What is said of an error. -/
def SchemaError.message : SchemaError → String
  | .nonScalarInput field typeName =>
    "Field " ++ field ++ " of type " ++ typeName ++ " can not be used as a mutation input"
  | .unknownType name => "Unknown type " ++ name
  | .repeatedField field => "Field `" ++ field ++ "` already exists"
  | .notExecutable => "Invalid generated schema"

/-- The types of a schema, in the order in which they are written. -/
structure Definition where
  /-- The roots, the entities and the mutators. -/
  objects : List ObjectType
  /-- The input types. -/
  inputs : List InputType
  deriving DecidableEq, Inhabited

namespace Definition

/-- The first object type of a name. -/
def object? (definition : Definition) (name : String) : Option ObjectType :=
  definition.objects.find? (·.name = name)

/-- The first input type of a name. -/
def input? (definition : Definition) (name : String) : Option InputType :=
  definition.inputs.find? (·.name = name)

/-- The object type of a name, or the error that there is none. -/
def object (definition : Definition) (name : String) : Except SchemaError ObjectType :=
  match definition.object? name with
  | some type => .ok type
  | none => .error (.unknownType name)

/-- The input type of a name, or the error that there is none. -/
def input (definition : Definition) (name : String) : Except SchemaError InputType :=
  match definition.input? name with
  | some type => .ok type
  | none => .error (.unknownType name)

/-- The root of queries. -/
def query? (definition : Definition) : Option ObjectType := definition.object? queryType

/-- The root of mutations. -/
def mutation? (definition : Definition) : Option ObjectType := definition.object? mutationType

/-- The types of the instances of shapes. -/
def entities (definition : Definition) : List ObjectType :=
  definition.objects.filter (·.kind = .entity)

/-- The class of the instances of a type, if the type is known and has one. -/
def classOf? (definition : Definition) (name : String) : Option String :=
  (definition.object? name).bind ObjectType.cls

end Definition

end LinkedShapes.Schema
