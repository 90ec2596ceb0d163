import LinkedShapes.Shape.Scalar

/-!
# Type expressions

The type of a field or an argument: a named type, or a list of one, and whether null is allowed for
the value and for the items of a list.
-/

namespace LinkedShapes.Schema

/-- A named type with at most one list around it. -/
structure TypeExpr where
  /-- The name of the type of the value or of the items. -/
  name : String
  /-- Whether the value is a list. -/
  list : Bool
  /-- Whether the items of a list are not null. -/
  itemNonNull : Bool
  /-- Whether the value is not null. -/
  nonNull : Bool
  deriving DecidableEq, Inhabited

namespace TypeExpr

/-- The nullable type of a name. -/
def named (name : String) : TypeExpr := ⟨name, false, false, false⟩

/-- The nullable type of lists of values of a type. -/
def listOf (type : TypeExpr) : TypeExpr :=
  { type with list := true, itemNonNull := type.nonNull, nonNull := false }

/-- The type without null. -/
def required (type : TypeExpr) : TypeExpr := { type with nonNull := true }

/-- The type with null allowed. -/
def nullable (type : TypeExpr) : TypeExpr := { type with nonNull := false }

/-- The scalar of the named type, if it is one. -/
def scalar? (type : TypeExpr) : Option Scalar := Scalar.ofName? type.name

/-- The type as it is written in the query language. -/
def text (type : TypeExpr) : String :=
  (if type.list then "[" ++ type.name ++ (if type.itemNonNull then "!" else "") ++ "]"
    else type.name) ++ (if type.nonNull then "!" else "")

end TypeExpr

end LinkedShapes.Schema
