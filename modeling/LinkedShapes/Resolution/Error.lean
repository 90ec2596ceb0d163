import LinkedShapes.Iri.Fault
import LinkedShapes.Ldp.Resource
import LinkedShapes.Schema.Definition

/-!
# Errors of a resolution

Why a field has no value. Some errors are found in the request alone, before anything is asked of a
resource or with nothing but questions asked; these are errors of validation.
-/

namespace LinkedShapes.Resolution

open Rdf Ldp Schema

/-- What is wrong with an argument. -/
inductive ArgumentFault where
  /-- The argument is not declared. -/
  | notDeclared
  /-- An identifier is not a text. -/
  | notText
  /-- An identifier is missing. -/
  | missingIdentifier
  /-- An input is not an object. -/
  | notObject
  /-- A member of an input is not a field of its type. -/
  | notField (typeName : String)
  /-- A text is empty, or is none. -/
  | emptyText
  /-- A text is not an absolute IRI. -/
  | notIri (fault : Iri.Fault)
  /-- An identifier is not that of an entity in a document below the container. -/
  | notInDocument (iri container : String)
  /-- A slug is not the name of a document. -/
  | notDocumentName (slug : String)
  deriving DecidableEq, Inhabited

/-- What is said of a fault. -/
def ArgumentFault.message : ArgumentFault → String
  | .notDeclared => "not declared"
  | .notText => "expecting a string"
  | .missingIdentifier => "an id is required"
  | .notObject => "expecting an input object"
  | .notField typeName => "not a field of " ++ typeName
  | .emptyText => "expecting a non empty string"
  | .notIri fault => fault.message
  | .notInDocument iri container =>
    iriText iri ++ " is not stored in a document of " ++ container
  | .notDocumentName slug => slug ++ " is not a document name"

/-- Why a field has no value. -/
inductive ResolveError where
  /-- No resource is known for a class. -/
  | noTarget (cls : String)
  /-- A type is not bound to a class. -/
  | missingClass (typeName : String)
  /-- A field that must have a value is set to null. -/
  | nullOnNonNullable (typeName field : String)
  /-- An argument is missing or is not what it should be. -/
  | invalidArgument (name : String) (fault : ArgumentFault)
  /-- A document would be replaced. -/
  | alreadyExists (url : String)
  /-- A value can not be written as a literal. -/
  | invalidValue (property : String) (expected : Scalar) (found : String)
  /-- The field needs the entity that it is a field of. -/
  | missingContext (field : String)
  /-- The entity has no IRI. -/
  | notNamed (node : Node)
  /-- The schema lacks a type or a field. -/
  | schema (cause : SchemaError)
  /-- A call failed. -/
  | transport (cause : Failure)
  deriving DecidableEq, Inhabited

namespace ResolveError

/-- What is said of an error. -/
def message : ResolveError → String
  | .noTarget cls => "No target resource known for class " ++ iriText cls
  | .missingClass typeName => "Type " ++ typeName ++ " is not bound to any class"
  | .nullOnNonNullable typeName field =>
    "Field " ++ field ++ " of " ++ typeName ++ " is non-nullable and can not be set to null"
  | .invalidArgument name fault => "Invalid argument " ++ name ++ ": " ++ fault.message
  | .alreadyExists url => "The resource " ++ url ++ " already exists"
  | .invalidValue property expected found =>
    "Invalid value for " ++ iriText property ++ ": expecting a " ++ expected.name ++
      " value, found " ++ found
  | .missingContext field => "Field " ++ field ++ " requires a resolved parent entity"
  | .notNamed node => node.text ++ " is not a named resource"
  | .schema cause => cause.message
  | .transport cause => cause.message

/-- Whether the error is one of validation. -/
def isValidation : ResolveError → Bool
  | .nullOnNonNullable .. => true
  | .invalidArgument .. => true
  | .invalidValue .. => true
  | .alreadyExists .. => true
  | _ => false

end ResolveError

end LinkedShapes.Resolution
