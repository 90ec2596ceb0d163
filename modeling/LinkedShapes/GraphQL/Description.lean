import LinkedShapes.GraphQL.TypeSystem
import LinkedShapes.Json.Printer

/-!
# Descriptions of types

What a type system answers about itself: the schema, its types, their fields and arguments, and the
directives. A description holds further descriptions, which are only made as far as a document asks
for them.
-/

namespace LinkedShapes.GraphQL

/-- What is described. -/
inductive Described where
  /-- The whole schema. -/
  | schema
  /-- A type. -/
  | type (ref : TypeRef)
  /-- A field of an object type. -/
  | field (output : OutputField)
  /-- An argument, or a field of an input type. -/
  | parameter (parameter : Parameter)
  /-- A value of an enumeration. -/
  | value (name : String)
  /-- A directive. -/
  | directive (type : DirectiveType)
  deriving Inhabited

/-- The name of the type of a description. -/
def Described.typeName : Described → String
  | .schema => "__Schema"
  | .type _ => "__Type"
  | .field _ => "__Field"
  | .parameter _ => "__InputValue"
  | .value _ => "__EnumValue"
  | .directive _ => "__Directive"

/-- One part of a description. -/
inductive Detail where
  /-- A value without parts. -/
  | leaf (value : Json)
  /-- A description. -/
  | one (part : Described)
  /-- A list of descriptions. -/
  | many (parts : List Described)
  deriving Inhabited

namespace TypeSystem

variable (system : TypeSystem)

/-- The kind of a type. -/
def kindOf : TypeRef → String
  | .nonNull _ => "NON_NULL"
  | .list _ => "LIST"
  | .named name =>
    match system.type? name with
    | some (.object ..) => "OBJECT"
    | some (.input ..) => "INPUT_OBJECT"
    | some (.enumeration ..) => "ENUM"
    | _ => "SCALAR"

/-- A part of the description of a type. -/
def typeDetail (ref : TypeRef) (part : String) : Detail :=
  let type? := match ref with
    | .named name => system.type? name
    | _ => none
  match part, ref, type? with
  | "kind", _, _ => .leaf (.string (system.kindOf ref))
  | "name", .named name, _ => .leaf (.string name)
  | "ofType", .nonNull inner, _ | "ofType", .list inner, _ => .one (.type inner)
  | "fields", _, some (.object _ fields) =>
    .many ((fields.filter fun field => !isReserved field.name).map .field)
  | "interfaces", _, some (.object ..) => .many []
  | "enumValues", _, some (.enumeration _ values) => .many (values.map .value)
  | "inputFields", _, some (.input _ fields) => .many (fields.map .parameter)
  | "isOneOf", _, some (.input ..) => .leaf (.bool false)
  | _, _, _ => .leaf .null

/-- A part of a description. Nothing is deprecated, and no part has words of its own. -/
def detail (described : Described) (part : String) : Detail :=
  match described, part with
  | .schema, "types" =>
    .many ((Text.sorted (system.types.map NamedType.name)).map fun name => .type (.named name))
  | .schema, "queryType" => .one (.type (.named Schema.queryType))
  | .schema, "mutationType" =>
    if system.mutable then .one (.type (.named Schema.mutationType)) else .leaf .null
  | .schema, "directives" => .many (directiveTypes.map .directive)
  | .type ref, part => system.typeDetail ref part
  | .field output, "name" => .leaf (.string output.name)
  | .field output, "args" => .many (output.parameters.map .parameter)
  | .field output, "type" => .one (.type output.type)
  | .parameter parameter, "name" => .leaf (.string parameter.name)
  | .parameter parameter, "type" => .one (.type parameter.type)
  | .parameter parameter, "defaultValue" =>
    .leaf (match parameter.default with
      | some value => .string value.toJson.text
      | none => .null)
  | .value name, "name" => .leaf (.string name)
  | .directive type, "name" => .leaf (.string type.name)
  | .directive type, "locations" =>
    .leaf (.array (type.locations.map fun location => .string location.text))
  | .directive type, "args" => .many (type.parameters.map .parameter)
  | .directive _, "isRepeatable" => .leaf (.bool false)
  | _, "isDeprecated" => .leaf (.bool false)
  | _, _ => .leaf .null

end TypeSystem

end LinkedShapes.GraphQL
