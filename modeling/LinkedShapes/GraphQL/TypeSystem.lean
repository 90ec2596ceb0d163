import LinkedShapes.GraphQL.Document
import LinkedShapes.Schema.Definition

/-!
# Type systems

The types that documents are read against: those of a schema, the scalars, and the types that
describe types. Not every schema makes a type system: names with two leading underscores are kept for
the description of types, the scalars can not be defined again, and each type that is spoken of must
be there, and be a type of what is answered or of what is asked for.

## Main statements

* `TypeSystem.repeatedField?_eq_none_iff`: no field is repeated if the fields of each type have
  different names.
* `TypeSystem.ofDefinition_eq_repeatedField_iff`: a schema with a repeated field makes no type system.
-/

namespace LinkedShapes.GraphQL

open Schema (Definition ObjectType InputType SchemaError)

/-- An argument, or a field of an input type. -/
structure Parameter where
  /-- The name. -/
  name : String
  /-- The type. -/
  type : TypeRef
  /-- The value where none is given. -/
  default : Option Literal := none
  deriving Inhabited

/-- Whether a value must be given. -/
def Parameter.isRequired (parameter : Parameter) : Bool :=
  parameter.type.isNonNull && parameter.default.isNone

/-- A field of an object type. -/
structure OutputField where
  /-- The name. -/
  name : String
  /-- The type. -/
  type : TypeRef
  /-- The arguments. -/
  parameters : List Parameter := []
  deriving Inhabited

/-- A type with a name. -/
inductive NamedType where
  /-- Values without parts. -/
  | scalar (name : String)
  /-- One of some names. -/
  | enumeration (name : String) (values : List String)
  /-- What is answered. -/
  | object (name : String) (fields : List OutputField)
  /-- What is asked for. -/
  | input (name : String) (fields : List Parameter)
  deriving Inhabited

namespace NamedType

/-- The name. -/
def name : NamedType → String
  | scalar name => name
  | enumeration name _ => name
  | object name _ => name
  | input name _ => name

/-- The field of a name, if the type has one. -/
def field? (type : NamedType) (name : String) : Option OutputField :=
  match type with
  | object _ fields => fields.find? (·.name = name)
  | _ => none

/-- Whether the values have fields. -/
def isObject : NamedType → Bool
  | object .. => true
  | _ => false

/-- Whether the values can be answered. -/
def isOutput : NamedType → Bool
  | input .. => false
  | _ => true

/-- Whether the values can be asked for. -/
def isInput : NamedType → Bool
  | object .. => false
  | _ => true

end NamedType

/-- Where a directive may stand. -/
inductive Location where
  /-- A query. -/
  | query
  /-- A mutation. -/
  | mutation
  /-- A subscription. -/
  | subscription
  /-- A field of a selection. -/
  | field
  /-- The definition of a fragment. -/
  | fragmentDefinition
  /-- The name of a fragment in a selection. -/
  | fragmentSpread
  /-- Selections with a condition. -/
  | inlineFragment
  /-- A scalar. -/
  | scalar
  /-- A field of an object type. -/
  | fieldDefinition
  /-- An argument of a field. -/
  | argumentDefinition
  /-- A value of an enumeration. -/
  | enumValue
  /-- An input type. -/
  | inputObject
  /-- A field of an input type. -/
  | inputFieldDefinition
  deriving DecidableEq, Inhabited

/-- The name of a location. -/
def Location.text : Location → String
  | .query => "QUERY"
  | .mutation => "MUTATION"
  | .subscription => "SUBSCRIPTION"
  | .field => "FIELD"
  | .fragmentDefinition => "FRAGMENT_DEFINITION"
  | .fragmentSpread => "FRAGMENT_SPREAD"
  | .inlineFragment => "INLINE_FRAGMENT"
  | .scalar => "SCALAR"
  | .fieldDefinition => "FIELD_DEFINITION"
  | .argumentDefinition => "ARGUMENT_DEFINITION"
  | .enumValue => "ENUM_VALUE"
  | .inputObject => "INPUT_OBJECT"
  | .inputFieldDefinition => "INPUT_FIELD_DEFINITION"

/-- A directive that documents may use. -/
structure DirectiveType where
  /-- The name. -/
  name : String
  /-- Where it may stand. -/
  locations : List Location
  /-- The arguments. -/
  parameters : List Parameter := []
  deriving Inhabited

/-! ### The types of every type system -/

/-- The nullable type of a name. -/
def nullableType (name : String) : TypeRef := .named name

/-- The type of a name without null. -/
def requiredType (name : String) : TypeRef := .nonNull (.named name)

/-- Lists without null of values of a type without null. -/
def requiredList (name : String) : TypeRef := .nonNull (.list (requiredType name))

/-- Lists of values of a type without null. -/
def nullableList (name : String) : TypeRef := .list (requiredType name)

/-- The names of the scalars. -/
def scalarNames : List String := ["Boolean", "Float", "ID", "Int", "String"]

/-- Whether a name is kept for the description of types. -/
def isReserved (name : String) : Bool := "__".toList.isPrefixOf name.toList

/-- The directives. -/
def directiveTypes : List DirectiveType :=
  let executable := [.field, .fragmentSpread, .inlineFragment]
  [{ name := "deprecated"
     locations := [.fieldDefinition, .argumentDefinition, .inputFieldDefinition, .enumValue]
     parameters := [⟨"reason", nullableType "String", some (.string "No longer supported")⟩] },
   { name := "include", locations := executable
     parameters := [⟨"if", requiredType "Boolean", none⟩] },
   { name := "oneOf", locations := [.inputObject] },
   { name := "skip", locations := executable
     parameters := [⟨"if", requiredType "Boolean", none⟩] },
   { name := "specifiedBy", locations := [.scalar]
     parameters := [⟨"url", requiredType "String", none⟩] }]

/-- The directive of a name. -/
def directiveType? (name : String) : Option DirectiveType :=
  directiveTypes.find? (·.name = name)

/-- The argument that asks for what is deprecated too. -/
def includeDeprecated : List Parameter :=
  [⟨"includeDeprecated", requiredType "Boolean", some (.bool false)⟩]

/-- The types that describe types. -/
def describingTypes : List NamedType :=
  [.object "__Directive"
     [{ name := "name", type := requiredType "String" },
      { name := "description", type := nullableType "String" },
      { name := "locations", type := requiredList "__DirectiveLocation" },
      { name := "args", type := requiredList "__InputValue", parameters := includeDeprecated },
      { name := "isRepeatable", type := requiredType "Boolean" }],
   .enumeration "__DirectiveLocation"
     ["QUERY", "MUTATION", "SUBSCRIPTION", "FIELD", "FRAGMENT_DEFINITION", "FRAGMENT_SPREAD",
      "INLINE_FRAGMENT", "VARIABLE_DEFINITION", "SCHEMA", "SCALAR", "OBJECT",
      "FIELD_DEFINITION", "ARGUMENT_DEFINITION", "INTERFACE", "UNION", "ENUM", "ENUM_VALUE",
      "INPUT_OBJECT", "INPUT_FIELD_DEFINITION"],
   .object "__EnumValue"
     [{ name := "name", type := requiredType "String" },
      { name := "description", type := nullableType "String" },
      { name := "isDeprecated", type := requiredType "Boolean" },
      { name := "deprecationReason", type := nullableType "String" }],
   .object "__Field"
     [{ name := "name", type := requiredType "String" },
      { name := "description", type := nullableType "String" },
      { name := "args", type := requiredList "__InputValue", parameters := includeDeprecated },
      { name := "type", type := requiredType "__Type" },
      { name := "isDeprecated", type := requiredType "Boolean" },
      { name := "deprecationReason", type := nullableType "String" }],
   .object "__InputValue"
     [{ name := "name", type := requiredType "String" },
      { name := "description", type := nullableType "String" },
      { name := "type", type := requiredType "__Type" },
      { name := "defaultValue", type := nullableType "String" },
      { name := "isDeprecated", type := requiredType "Boolean" },
      { name := "deprecationReason", type := nullableType "String" }],
   .object "__Schema"
     [{ name := "description", type := requiredType "String" },
      { name := "types", type := requiredList "__Type" },
      { name := "queryType", type := requiredType "__Type" },
      { name := "mutationType", type := nullableType "__Type" },
      { name := "subscriptionType", type := nullableType "__Type" },
      { name := "directives", type := requiredList "__Directive" }],
   .object "__Type"
     [{ name := "kind", type := requiredType "__TypeKind" },
      { name := "name", type := nullableType "String" },
      { name := "description", type := nullableType "String" },
      { name := "fields", type := nullableList "__Field", parameters := includeDeprecated },
      { name := "interfaces", type := nullableList "__Type" },
      { name := "possibleTypes", type := nullableList "__Type" },
      { name := "enumValues", type := nullableList "__EnumValue",
        parameters := includeDeprecated },
      { name := "inputFields", type := nullableList "__InputValue",
        parameters := includeDeprecated },
      { name := "ofType", type := nullableType "__Type" },
      { name := "specifiedByURL", type := nullableType "String" },
      { name := "isOneOf", type := nullableType "Boolean" }],
   .enumeration "__TypeKind"
     ["SCALAR", "OBJECT", "INTERFACE", "UNION", "ENUM", "INPUT_OBJECT", "LIST", "NON_NULL"]]

/-- The name of the field of the root of queries that describes the schema. -/
def schemaField : String := "__schema"

/-- The name of the field of the root of queries that describes a type. -/
def typeField : String := "__type"

/-- The name of the field of every object that is the name of its type. -/
def typeNameField : String := "__typename"

/-- The fields of the root of queries that describe types. -/
def describingFields : List OutputField :=
  [{ name := schemaField, type := requiredType "__Schema" },
   { name := typeField, type := nullableType "__Type"
     parameters := [⟨"name", requiredType "String", none⟩] }]

/-! ### The type system of a schema -/

/-- The types that documents are read against. -/
structure TypeSystem where
  /-- The schema, in which no two types have one name. -/
  definition : Definition
  /-- Whether there is a root of mutations. -/
  mutable : Bool
  /-- The types. -/
  types : List NamedType
  deriving Inhabited

namespace TypeSystem

/-- The argument of a schema field. -/
def parameterOf (argument : Schema.Argument) : Parameter :=
  ⟨argument.name, .ofExpr argument.type, none⟩

/-- The field of a schema type. -/
def outputOf (field : Schema.Field) : OutputField :=
  ⟨field.name, .ofExpr field.type, field.arguments.map parameterOf⟩

/-- The type of an object type of a schema. -/
def objectOf (type : ObjectType) : NamedType :=
  .object type.name (type.fields.map outputOf)

/-- The type of an input type of a schema. -/
def inputOf (type : InputType) : NamedType :=
  .input type.name (type.fields.map fun field => ⟨field.name, .ofExpr field.type, none⟩)

/-- The type of a name. -/
def type? (system : TypeSystem) (name : String) : Option NamedType :=
  system.types.find? (·.name = name)

/-- The name of the root of the operations of a kind. -/
def root? (system : TypeSystem) (kind : OperationKind) : Option String :=
  match kind with
  | .query => some Schema.queryType
  | .mutation => if system.mutable then some Schema.mutationType else none
  | .subscription => none

/-- The elements of which no later one has the same name. -/
def lastOfName {α : Type} (name : α → String) : List α → List α
  | [] => []
  | item :: rest =>
    if rest.any fun later => name later = name item then lastOfName name rest
    else item :: lastOfName name rest

/-- The schema without object types that have no fields, and of the types of one name only the last
one, where input types come last. -/
def effective (definition : Definition) : Definition :=
  let objects := definition.objects.filter fun type => !type.fields.isEmpty
  let inputs := lastOfName InputType.name definition.inputs
  { objects := (lastOfName ObjectType.name objects).filter fun type =>
      !inputs.any (·.name = type.name)
    inputs := inputs }

/-- The first name that a list holds twice. -/
def firstRepeated : List String → Option String
  | [] => none
  | name :: rest => if name ∈ rest then some name else firstRepeated rest

theorem firstRepeated_eq_none_iff {names : List String} : firstRepeated names = none ↔ names.Nodup := by
  induction names with
  | nil => simp [firstRepeated]
  | cons name rest ih =>
    unfold firstRepeated
    rw [List.nodup_cons, ← ih]
    split
    · rename_i repeated
      simp [repeated]
    · rename_i fresh
      simp [fresh]

/-- The name of a field that a type of a schema has twice. -/
def repeatedField? (definition : Definition) : Option String :=
  let ofObjects := definition.objects.findSome? fun type =>
    firstRepeated (type.fields.map Schema.Field.name)
  ofObjects <|> definition.inputs.findSome? fun type =>
    firstRepeated (type.fields.map Schema.InputField.name)

theorem repeatedField?_eq_none_iff {definition : Definition} :
    repeatedField? definition = none ↔
      (∀ type ∈ definition.objects, (type.fields.map Schema.Field.name).Nodup) ∧
        ∀ type ∈ definition.inputs, (type.fields.map Schema.InputField.name).Nodup := by
  simp only [repeatedField?, Option.orElse_eq_orElse, Option.orElse_eq_or, Option.or_eq_none_iff,
    List.findSome?_eq_none_iff, firstRepeated_eq_none_iff]

/-- Whether the name and the types of a field can be used. -/
def admitsField (types : List NamedType) (field : OutputField) : Bool :=
  !isReserved field.name &&
    types.any (fun type => type.name = field.type.name && type.isOutput) &&
    field.parameters.all fun parameter =>
      !isReserved parameter.name &&
        types.any fun type => type.name = parameter.type.name && type.isInput

/-- Whether the names and the types of a type can be used. -/
def admitsType (types : List NamedType) : NamedType → Bool
  | .object name fields => name ∉ scalarNames && fields.all (admitsField types)
  | .input name fields =>
    name ∉ scalarNames && fields.all fun field =>
      !isReserved field.name &&
        types.any fun type => type.name = field.type.name && type.isInput
  | _ => true

/-- The root of queries with the fields that describe types. -/
def withDescribingFields (type : NamedType) : NamedType :=
  match type with
  | .object name fields =>
    if name = Schema.queryType then .object name (fields ++ describingFields) else type
  | type => type

/-- The type system of a schema. -/
def ofDefinition (definition : Definition) : Except SchemaError TypeSystem :=
  match repeatedField? definition with
  | some field => .error (.repeatedField field)
  | none =>
    let mutable := definition.mutation?.any fun type => !type.fields.isEmpty
    let kept := effective definition
    let own := kept.objects.map objectOf ++ kept.inputs.map inputOf
    let known := own ++ scalarNames.map .scalar
    let isRoot (name : String) : Bool := kept.objects.any (·.name = name)
    if isRoot Schema.queryType && (!mutable || isRoot Schema.mutationType) &&
        own.all (admitsType known) then
      .ok { definition := kept, mutable := mutable
            types := known.map withDescribingFields ++ describingTypes }
    else .error .notExecutable

/-- A schema is refused for a repeated field if and only if it has one. -/
theorem ofDefinition_eq_repeatedField_iff {definition : Definition} {field : String} :
    ofDefinition definition = .error (.repeatedField field) ↔
      repeatedField? definition = some field := by
  unfold ofDefinition
  cases repeatedField? definition with
  | some repeated => simp
  | none =>
    dsimp only
    split <;> simp

end TypeSystem

end LinkedShapes.GraphQL
