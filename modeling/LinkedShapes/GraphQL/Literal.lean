import LinkedShapes.Json.Value

/-!
# Literals

The values that are written in documents: those of JSON, names, and variables. A literal without
variables is a constant; it is also a JSON value, with the names read as texts.

## Main statements

* `toJson_ofJson`: a JSON value is the constant that stands for it.
-/

namespace LinkedShapes.GraphQL

open Number (Binary64)

/-- A value as it is written in a document. -/
inductive Literal where
  /-- The value of a variable. -/
  | var (name : String)
  /-- The null value. -/
  | null
  /-- A truth value. -/
  | bool (value : Bool)
  /-- An integer. -/
  | int (value : Int)
  /-- A number that is not kept as an integer. -/
  | float (value : Binary64)
  /-- A text. -/
  | string (value : String)
  /-- The name of one of the values of an enumeration. -/
  | symbol (value : String)
  /-- A list. -/
  | list (items : List Literal)
  /-- Named members, sorted by name. -/
  | object (members : List (String × Literal))
  deriving Inhabited, BEq

namespace Literal

mutual
/-- The literal that stands for a JSON value. -/
def ofJson : Json → Literal
  | .null => .null
  | .bool value => .bool value
  | .int value => .int value
  | .float value => .float value
  | .string value => .string value
  | .array items => .list (ofItems items)
  | .object members => .object (ofMembers members)
/-- The literals that stand for the items of a list. -/
def ofItems : List Json → List Literal
  | [] => []
  | item :: rest => ofJson item :: ofItems rest
/-- The literals that stand for the members of an object. -/
def ofMembers : List (String × Json) → List (String × Literal)
  | [] => []
  | (name, value) :: rest => (name, ofJson value) :: ofMembers rest
end

mutual
/-- The JSON value of a constant; a variable has none, and is null. -/
def toJson : Literal → Json
  | .var _ => .null
  | .null => .null
  | .bool value => .bool value
  | .int value => .int value
  | .float value => .float value
  | .string value => .string value
  | .symbol value => .string value
  | .list items => .array (itemsToJson items)
  | .object members => .object (membersToJson members)
/-- The JSON values of the items of a list. -/
def itemsToJson : List Literal → List Json
  | [] => []
  | item :: rest => toJson item :: itemsToJson rest
/-- The JSON values of the members of an object. -/
def membersToJson : List (String × Literal) → List (String × Json)
  | [] => []
  | (name, value) :: rest => (name, toJson value) :: membersToJson rest
end

mutual
theorem toJson_ofJson : ∀ value : Json, (ofJson value).toJson = value
  | .null => rfl
  | .bool _ => rfl
  | .int _ => rfl
  | .float _ => rfl
  | .string _ => rfl
  | .array items => by simp [ofJson, toJson, itemsToJson_ofItems items]
  | .object members => by simp [ofJson, toJson, membersToJson_ofMembers members]
theorem itemsToJson_ofItems : ∀ items : List Json, itemsToJson (ofItems items) = items
  | [] => rfl
  | item :: rest => by simp [ofItems, itemsToJson, toJson_ofJson item, itemsToJson_ofItems rest]
theorem membersToJson_ofMembers :
    ∀ members : List (String × Json), membersToJson (ofMembers members) = members
  | [] => rfl
  | (name, value) :: rest => by
    simp [ofMembers, membersToJson, toJson_ofJson value, membersToJson_ofMembers rest]
end

mutual
/-- The literal with its variables replaced by their values; none if one of them has no value. -/
def substitute (value? : String → Option Literal) : Literal → Option Literal
  | .var name => value? name
  | .list items => (substituteItems value? items).map .list
  | .object members => (substituteMembers value? members).map .object
  | literal => some literal
/-- The items of a list with their variables replaced. -/
def substituteItems (value? : String → Option Literal) : List Literal → Option (List Literal)
  | [] => some []
  | item :: rest => do
    let item ← substitute value? item
    let rest ← substituteItems value? rest
    return item :: rest
/-- The members of an object with their variables replaced. -/
def substituteMembers (value? : String → Option Literal) :
    List (String × Literal) → Option (List (String × Literal))
  | [] => some []
  | (name, value) :: rest => do
    let value ← substitute value? value
    let rest ← substituteMembers value? rest
    return (name, value) :: rest
end

mutual
/-- The names of the variables in a literal. -/
def variableNames : Literal → List String
  | .var name => [name]
  | .list items => itemVariables items
  | .object members => memberVariables members
  | _ => []
/-- The names of the variables in the items of a list. -/
def itemVariables : List Literal → List String
  | [] => []
  | item :: rest => variableNames item ++ itemVariables rest
/-- The names of the variables in the members of an object. -/
def memberVariables : List (String × Literal) → List String
  | [] => []
  | (_, value) :: rest => variableNames value ++ memberVariables rest
end

mutual
/-- The literal with all its zeros that are no integers written without a sign. -/
def withPlainZeros : Literal → Literal
  | .float value => .float (if value.significand = 0 then .zero false else value)
  | .list items => .list (itemsWithPlainZeros items)
  | .object members => .object (membersWithPlainZeros members)
  | literal => literal
/-- The items of a list with their zeros written without a sign. -/
def itemsWithPlainZeros : List Literal → List Literal
  | [] => []
  | item :: rest => withPlainZeros item :: itemsWithPlainZeros rest
/-- The members of an object with their zeros written without a sign. -/
def membersWithPlainZeros : List (String × Literal) → List (String × Literal)
  | [] => []
  | (name, value) :: rest => (name, withPlainZeros value) :: membersWithPlainZeros rest
end

/-- The object of some members: of the members of one name the last one counts. -/
def ofEntries (members : List (String × Literal)) : Literal :=
  let kept := members.foldr (fun member kept =>
    if kept.any (·.1 = member.1) then kept else member :: kept) []
  .object (Text.sortBy Prod.fst kept)

end Literal

end LinkedShapes.GraphQL
