import LinkedShapes.GraphQL.TypeSystem

/-!
# Values of types

Which constants are values of a type, and which part of another constant is at fault. A value that is
not a list stands for a list of itself.

## Main statements

* `misfit?_null_eq_none_iff`: null is a value of the types that are not marked as without null.
-/

namespace LinkedShapes.GraphQL

open Number (minInt64 maxInt64)

/-- A step from a value to one of its parts. -/
inductive Step where
  /-- To the member of a name. -/
  | member (name : String)
  /-- To an item of a list. -/
  | item (index : Nat)
  deriving DecidableEq, Inhabited

/-- A step as it is written. -/
def Step.text : Step → String
  | member name => name
  | item index => Number.natText index

/-- Why a constant is no value of a type. -/
inductive Mismatch where
  /-- It is not one of the values of a type. -/
  | notOfType (type : String)
  /-- It is none of the names of an enumeration. -/
  | notListed (enumeration value : String)
  /-- A member that an input type requires is missing. -/
  | missingMember (member type : String)
  /-- An input type does not have one of the members. -/
  | unknownMember (member type : String)
  /-- The type is not defined. -/
  | undefinedType (type : String)
  deriving DecidableEq, Inhabited

/-- What is said of a mismatch. -/
def Mismatch.message : Mismatch → String
  | notOfType type => "expected type \"" ++ type ++ "\""
  | notListed enumeration value =>
    "enumeration type \"" ++ enumeration ++ "\" does not contain the value \"" ++ value ++ "\""
  | missingMember member type =>
    "field \"" ++ member ++ "\" of type \"" ++ type ++ "\" is required but not provided"
  | unknownMember member type =>
    "unknown field \"" ++ member ++ "\" of type \"" ++ type ++ "\""
  | undefinedType type => "Type `" ++ type ++ "` not defined"

/-- A part of a constant that is no value of the type that is asked for there. -/
structure Misfit where
  /-- The way to the part. -/
  path : List Step
  /-- What is wrong with it. -/
  cause : Mismatch
  deriving DecidableEq, Inhabited

namespace Misfit

/-- The part as a part of the value that a step leads from. -/
def within (misfit : Misfit) (step : Step) : Misfit :=
  { misfit with path := step :: misfit.path }

/-- What is said of the part. -/
def message (misfit : Misfit) : String :=
  "\"" ++ String.intercalate "." (misfit.path.map Step.text) ++ "\", " ++ misfit.cause.message

end Misfit

namespace TypeSystem

/-- Whether a constant is a value of a scalar. -/
def acceptsScalar (name : String) (value : Literal) : Bool :=
  let isInteger : Bool := match value with
    | .int n => minInt64 ≤ n && n ≤ maxInt64
    | _ => false
  let isText : Bool := match value with
    | .string _ => true
    | _ => false
  match name with
  | "Int" => isInteger
  | "Float" => match value with
    | .int _ | .float _ => true
    | _ => false
  | "String" => isText
  | "Boolean" => match value with
    | .bool _ => true
    | _ => false
  | "ID" => isInteger || isText
  | _ => false

/-- Why a constant that is not null is no value of a named type. What is asked for by an input type is
not looked into here. -/
def mismatch? (system : TypeSystem) (name : String) (value : Literal) : Option Mismatch :=
  match system.type? name with
  | none => some (.undefinedType name)
  | some (.scalar scalar) => if acceptsScalar scalar value then none else some (.notOfType name)
  | some (.enumeration name values) => match value with
    | .symbol word | .string word =>
      if word ∈ values then none else some (.notListed name word)
    | _ => some (.notOfType name)
  | some _ => none

mutual
/-- The first part of a constant that is no value of what is asked for there. -/
def misfit? (system : TypeSystem) : Literal → TypeRef → Option Misfit
  | .null, type => if type.isNonNull then some ⟨[], .notOfType type.nullable.text⟩ else none
  | .list items, type =>
    match type.nullable with
    | .list item => itemMisfit? system item 0 items
    | type => (mismatch? system type.name (.list items)).map (⟨[], ·⟩)
  | .object members, type =>
    match system.type? type.name with
    | some (.input name fields) =>
      let misfits := memberMisfits system fields members
      (fields.findSome? fun field =>
        if members.any (·.1 = field.name) then
          (misfits.find? (·.1 = field.name)).map fun found => found.2.within (.member field.name)
        else if field.isRequired then some ⟨[], .missingMember field.name name⟩ else none) <|>
      (members.find? fun member => !fields.any (·.name = member.1)).map fun member =>
        ⟨[], .unknownMember member.1 name⟩
    | _ => (mismatch? system type.name (.object members)).map (⟨[], ·⟩)
  | value, type => (mismatch? system type.name value).map (⟨[], ·⟩)
/-- The first part of the items of a list that is no value of what is asked for there; `index` is the
place of the first of the items. -/
def itemMisfit? (system : TypeSystem) (type : TypeRef) (index : Nat) :
    List Literal → Option Misfit
  | [] => none
  | item :: rest =>
    ((misfit? system item type).map (·.within (.item index))) <|>
      itemMisfit? system type (index + 1) rest
/-- The members of an object that are no values of the fields of an input type, each with the part
that is at fault. -/
def memberMisfits (system : TypeSystem) (fields : List Parameter) :
    List (String × Literal) → List (String × Misfit)
  | [] => []
  | (name, value) :: rest =>
    let first := (fields.find? (·.name = name)).bind fun field => misfit? system value field.type
    (first.map ((name, ·))).toList ++ memberMisfits system fields rest
end

theorem misfit?_null_eq_none_iff (system : TypeSystem) (type : TypeRef) :
    system.misfit? .null type = none ↔ type.isNonNull = false := by
  simp [misfit?]

end TypeSystem

end LinkedShapes.GraphQL
