import LinkedShapes.Number.Binary64
import LinkedShapes.Text.Order

/-!
# JSON values

The values of JSON. Integers of 64 bits are exact and every other number is a binary64 number. The
members of an object are a list: a reader keeps them as written, and `Json.canonical` sorts them and
keeps the last member of each name, so that two objects with the same members are the same value.
-/

namespace LinkedShapes

open Number (Binary64)

/-- A JSON value. -/
inductive Json where
  /-- The null value. -/
  | null
  /-- A truth value. -/
  | bool (value : Bool)
  /-- An integer. -/
  | int (value : Int)
  /-- A number that is not kept as an integer. -/
  | float (value : Binary64)
  /-- A text. -/
  | string (value : String)
  /-- A list. -/
  | array (items : List Json)
  /-- Named members. -/
  | object (members : List (String × Json))
  deriving Inhabited, BEq

namespace Json

/-- Whether the value is null. -/
def isNull : Json → Bool
  | .null => true
  | _ => false

@[simp]
theorem isNull_eq_true_iff {value : Json} : value.isNull = true ↔ value = .null := by
  cases value <;> simp [isNull]

/-- The text, if the value is one. -/
def string? : Json → Option String
  | .string s => some s
  | _ => none

/-- The items, if the value is a list. -/
def array? : Json → Option (List Json)
  | .array items => some items
  | _ => none

/-- The members, if the value is an object. -/
def object? : Json → Option (List (String × Json))
  | .object members => some members
  | _ => none

/-- The value of the first member of a name. -/
def find? (members : List (String × Json)) (name : String) : Option Json :=
  (members.find? fun member => member.1 = name).map Prod.snd

/-- The member of a name, if the value is an object that has one. -/
def member? (value : Json) (name : String) : Option Json :=
  value.object?.bind (find? · name)

/-- Puts a member into a list of members in which no name is repeated, in the place of the one of
its name if there is one. -/
def insertMember (name : String) (value : Json) :
    List (String × Json) → List (String × Json)
  | [] => [(name, value)]
  | (n, v) :: rest =>
    if n = name then (name, value) :: rest else (n, v) :: insertMember name value rest

/-- The members with the last one of each name only, sorted by name. -/
def canonicalMembers (members : List (String × Json)) : List (String × Json) :=
  Text.sortBy Prod.fst (members.foldl (fun kept (name, value) => insertMember name value kept) [])

mutual
/-- The value with the members of each object sorted by name and without repetition. -/
def canonical : Json → Json
  | .array items => .array (canonicalItems items)
  | .object members => .object (canonicalMembers (canonicalValues members))
  | value => value
/-- The items of a list in canonical form. -/
def canonicalItems : List Json → List Json
  | [] => []
  | item :: rest => canonical item :: canonicalItems rest
/-- The members of an object, their values in canonical form. -/
def canonicalValues : List (String × Json) → List (String × Json)
  | [] => []
  | (name, value) :: rest => (name, canonical value) :: canonicalValues rest
end

/-- The object of some members, in canonical order. -/
def ofMembers (members : List (String × Json)) : Json :=
  .object (canonicalMembers members)

end Json

end LinkedShapes
