import LinkedShapes.Schema.Definition

/-!
# Writing schemas

A definition in the schema definition language: the directives, then the object types, then the
input types, each after an empty line.
-/

namespace LinkedShapes.Schema

/-- A directive after a space, if there is one. -/
def directiveSuffix : Option Directive → String
  | some directive => " " ++ directive.text
  | none => ""

/-- The declarations of the directives. -/
def directiveDeclarations : String :=
  "directive @is(class: String!) on OBJECT | INPUT_OBJECT\n\n" ++
  "directive @property(iri: String!) on FIELD_DEFINITION | INPUT_FIELD_DEFINITION\n\n" ++
  "directive @identifier on FIELD_DEFINITION\n"

/-- A type with a line for each field. -/
def typeText (keyword name : String) (cls : Option String) (fields : List String) : String :=
  "\n" ++ keyword ++ " " ++ name ++ directiveSuffix (cls.map .instancesOf) ++ " \x7b\n" ++
    String.join (fields.map fun field => "  " ++ field ++ "\n") ++ "\x7d\n"

/-- An argument. -/
def Argument.text (argument : Argument) : String :=
  argument.name ++ ": " ++ argument.type.text

/-- A field of an object type. -/
def Field.text (field : Field) : String :=
  let arguments :=
    if field.arguments.isEmpty then ""
    else "(" ++ String.intercalate ", " (field.arguments.map Argument.text) ++ ")"
  field.name ++ arguments ++ ": " ++ field.type.text ++ directiveSuffix field.directive

/-- A field of an input type. -/
def InputField.text (field : InputField) : String :=
  field.name ++ ": " ++ field.type.text ++ directiveSuffix field.directive

/-- An object type. -/
def ObjectType.text (type : ObjectType) : String :=
  typeText "type" type.name type.cls (type.fields.map Field.text)

/-- An input type. -/
def InputType.text (type : InputType) : String :=
  typeText "input" type.name type.cls (type.fields.map InputField.text)

/-- A whole definition. -/
def Definition.text (definition : Definition) : String :=
  directiveDeclarations ++ String.join (definition.objects.map ObjectType.text) ++
    String.join (definition.inputs.map InputType.text)

end LinkedShapes.Schema
