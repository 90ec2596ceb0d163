import LinkedShapes.Schema.TypeExpr

/-!
# References to types

How documents and schemas refer to types: by name, as lists to any depth, and without null.

## Main statements

* `text_ofExpr`: the type of a schema field is written alike in both forms.
-/

namespace LinkedShapes.GraphQL

/-- A reference to a type. -/
inductive TypeRef where
  /-- The type of a name, or null. -/
  | named (name : String)
  /-- The lists of values of a type, or null. -/
  | list (item : TypeRef)
  /-- A type without null. -/
  | nonNull (type : TypeRef)
  deriving DecidableEq, Inhabited

namespace TypeRef

/-- The name of the type of the values, or of the items of the lists. -/
def name : TypeRef → String
  | named name => name
  | list item => item.name
  | nonNull type => type.name

/-- Whether null is not a value. -/
def isNonNull : TypeRef → Bool
  | nonNull _ => true
  | _ => false

/-- The type with null allowed. -/
def nullable : TypeRef → TypeRef
  | nonNull type => type
  | type => type

/-- The type as it is written. -/
def text : TypeRef → String
  | named name => name
  | list item => "[" ++ item.text ++ "]"
  | nonNull type => type.text ++ "!"

/-- The type of a schema field. -/
def ofExpr (expr : Schema.TypeExpr) : TypeRef :=
  let one := named expr.name
  let inner := if expr.list then list (if expr.itemNonNull then nonNull one else one) else one
  if expr.nonNull then nonNull inner else inner

theorem text_ofExpr (expr : Schema.TypeExpr) : (ofExpr expr).text = expr.text := by
  obtain ⟨name, list, itemNonNull, nonNull⟩ := expr
  cases list <;> cases itemNonNull <;> cases nonNull <;>
    simp [ofExpr, text, Schema.TypeExpr.text, String.append_assoc]

end TypeRef

end LinkedShapes.GraphQL
