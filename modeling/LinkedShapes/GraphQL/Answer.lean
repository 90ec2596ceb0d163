import LinkedShapes.GraphQL.Document

/-!
# Objects of answers

The object that answers selections has one member for each key. Where a key is selected more than once,
the values are put together: objects by their members, lists of objects item by item, and of other
values the first one stays. An object of which nothing is selected is null.

## Main statements

* `Json.combine_nil`: putting an object together with an empty one changes nothing.
-/

namespace LinkedShapes.Json

/-- The members with the value of one replaced. -/
def replaceMember (name : String) (value : Json) (members : List (String × Json)) :
    List (String × Json) :=
  members.map fun member => if member.1 = name then (name, value) else member

mutual
/-- Two values of one key put together. -/
def combine (first : Json) : Json → Json
  | .object later =>
    match first with
    | .object members => .object (combineMembers members later)
    | _ => first
  | .array later =>
    match first with
    | .array items => .array (combineItems items later)
    | _ => first
  | _ => first
/-- Members put into an object one after the other. -/
def combineMembers (members : List (String × Json)) :
    List (String × Json) → List (String × Json)
  | [] => members
  | (name, value) :: rest =>
    let members := match find? members name with
      | some earlier => replaceMember name (combine earlier value) members
      | none => members ++ [(name, value)]
    combineMembers members rest
/-- The items of two lists put together, the second list being no longer than the first one; only
objects change. -/
def combineItems (items : List Json) : List Json → List Json
  | [] => items
  | value :: rest =>
    match items with
    | [] => []
    | item :: items =>
      (if item.object?.isSome then combine item value else item) :: combineItems items rest
end

/-- The object of some members, in which each key stands once; null if there are none. -/
def ofSelected : List (String × Json) → Json
  | [] => .null
  | members => .object (combineMembers [] members)

theorem combine_nil (members : List (String × Json)) :
    combine (.object members) (.object []) = .object members := by
  simp [combine, combineMembers]

end LinkedShapes.Json
