import LinkedShapes.Json.Value
import LinkedShapes.Rdf.Term
import LinkedShapes.Text.Blank

/-!
# Scalars

The kinds of values that the query language has of its own. A scalar is read from a literal of the
graph and written as one: the texts of numbers and truth values are read with the white space around
them removed, and written without any.

## Main statements

* `ofDatatype?_defaultDatatype`: the default datatype of a scalar is one of its datatypes.
-/

namespace LinkedShapes

open Rdf

/-- A kind of single values. -/
inductive Scalar where
  /-- Integers of 64 bits. -/
  | int
  /-- Binary64 numbers. -/
  | float
  /-- Texts. -/
  | string
  /-- Truth values. -/
  | boolean
  deriving DecidableEq, Inhabited

namespace Scalar

/-- The kind of the values of a datatype, if it is supported. -/
def ofDatatype? (datatype : String) : Option Scalar :=
  if datatype ∈ [Xsd.int, Xsd.integer, Xsd.long, Xsd.short] then some .int
  else if datatype ∈ [Xsd.float, Xsd.double, Xsd.decimal] then some .float
  else if datatype ∈ [Xsd.string, RdfSyntax.langString] then some .string
  else if datatype = Xsd.boolean then some .boolean
  else none

/-- The name of the scalar in the query language. -/
def name : Scalar → String
  | .int => "Int"
  | .float => "Float"
  | .string => "String"
  | .boolean => "Boolean"

/-- The scalar of a name of the query language; an identifier is a text. -/
def ofName? (name : String) : Option Scalar :=
  if name = "Int" then some .int
  else if name = "Float" then some .float
  else if name = "String" ∨ name = "ID" then some .string
  else if name = "Boolean" then some .boolean
  else none

@[simp]
theorem ofName?_name (scalar : Scalar) : ofName? scalar.name = some scalar := by
  cases scalar <;> decide

/-- The datatype of literals where no datatype is declared. -/
def defaultDatatype : Scalar → String
  | .int => Xsd.integer
  | .float => Xsd.double
  | .string => Xsd.string
  | .boolean => Xsd.boolean

theorem ofDatatype?_defaultDatatype (scalar : Scalar) :
    ofDatatype? scalar.defaultDatatype = some scalar := by
  cases scalar <;> decide

/-- The truth value that a text stands for. -/
def readBool? (text : List Char) : Option Bool :=
  if text = "true".toList ∨ text = "1".toList then some true
  else if text = "false".toList ∨ text = "0".toList then some false
  else none

/-- The value that a literal stands for. -/
def readLiteral? (scalar : Scalar) (literal : Literal) : Option Json :=
  let text := Text.trim literal.value.toList
  match scalar with
  | .int => (Number.readInt64? text).map .int
  | .float => (Number.Binary64.read? text).map .float
  | .string => some (.string literal.value)
  | .boolean => (readBool? text).map .bool

/-- The value that a term stands for; an IRI stands for its text. -/
def read? (scalar : Scalar) : Term → Option Json
  | .literal l => scalar.readLiteral? l
  | .node (.iri text) => if scalar = .string then some (.string text) else none
  | .node (.blank _) => none

/-- The text that stands for a value. -/
def lexical? (scalar : Scalar) (value : Json) : Option String :=
  match scalar, value with
  | .int, .int n => some (Number.intText n)
  | .float, .int n => some (Number.intText n)
  | .float, .float x => some x.text
  | .string, .string s => some s
  | .boolean, .bool b => some (if b then "true" else "false")
  | _, _ => none

/-- The literal of a datatype that stands for a value; texts of any kind are simple literals. -/
def literal? (scalar : Scalar) (value : Json) (datatype : String) : Option Literal :=
  (scalar.lexical? value).map fun text =>
    if datatype = Xsd.string ∨ datatype = RdfSyntax.langString then .simple text
    else .typed text datatype

end Scalar

end LinkedShapes
