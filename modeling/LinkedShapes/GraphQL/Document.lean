import LinkedShapes.GraphQL.Literal
import LinkedShapes.GraphQL.TypeRef

/-!
# Documents

A document holds operations and the fragments that they share. An operation selects fields, and
fields of the values of these fields, to any depth.
-/

namespace LinkedShapes.GraphQL

/-- The arguments of a field or a directive, in the order in which they are written. -/
abbrev Arguments := List (String × Literal)

/-- The first argument of a name. -/
def Arguments.find? (arguments : Arguments) (name : String) : Option Literal :=
  (List.find? (·.1 = name) arguments).map Prod.snd

/-- A directive of an executable part of a document. -/
structure Annotation where
  /-- The name. -/
  name : String
  /-- The arguments. -/
  arguments : Arguments
  deriving Inhabited, BEq

/-- A selected field without the selections below it. -/
structure FieldNode where
  /-- The name that the value is answered under, if it is not the name of the field. -/
  label : Option String
  /-- The name of the field. -/
  name : String
  /-- The arguments. -/
  arguments : Arguments
  /-- The directives. -/
  directives : List Annotation
  deriving Inhabited, BEq

/-- The name that the value of a field is answered under. -/
def FieldNode.key (node : FieldNode) : String := node.label.getD node.name

/-- A part of what is selected of an object. -/
inductive Selection where
  /-- A field, and what is selected of its value. -/
  | field (node : FieldNode) (selections : List Selection)
  /-- What a fragment selects. -/
  | spread (name : String) (directives : List Annotation)
  /-- What is selected if the object is of a type. -/
  | inline (condition : Option String) (directives : List Annotation)
      (selections : List Selection)
  deriving Inhabited

/-- A variable of an operation. -/
structure VariableDefinition where
  /-- The name. -/
  name : String
  /-- The type. -/
  type : TypeRef
  /-- The directives. -/
  directives : List Annotation := []
  /-- The value where none is given. -/
  default : Option Literal := none
  deriving Inhabited

/-- What an operation is for. -/
inductive OperationKind where
  /-- Reading. -/
  | query
  /-- Changing. -/
  | mutation
  /-- Listening. -/
  | subscription
  deriving DecidableEq, Inhabited

/-- The operations of a kind, as they are spoken of. -/
def OperationKind.text : OperationKind → String
  | .query => "query"
  | .mutation => "mutation"
  | .subscription => "subscription"

/-- An operation. -/
structure Operation where
  /-- What the operation is for. -/
  kind : OperationKind := .query
  /-- The name, if it has one. -/
  name : Option String := none
  /-- The variables. -/
  definitions : List VariableDefinition := []
  /-- The directives. -/
  directives : List Annotation := []
  /-- What is selected of the root. -/
  selections : List Selection
  deriving Inhabited

/-- A fragment: what is selected of the objects of a type. -/
structure Fragment where
  /-- The name. -/
  name : String
  /-- The name of the type. -/
  condition : String
  /-- The directives. -/
  directives : List Annotation := []
  /-- What is selected. -/
  selections : List Selection
  deriving Inhabited

/-- A document. -/
structure Document where
  /-- The operations. -/
  operations : List Operation
  /-- The fragments. -/
  fragments : List Fragment := []
  deriving Inhabited

namespace Document

/-- The fragment of a name. -/
def fragment? (document : Document) (name : String) : Option Fragment :=
  document.fragments.find? (·.name = name)

/-- Whether the definitions of a document go together: there is an operation, an operation without
a name is the only one, and no two operations and no two fragments have one name. -/
def isCoherent (document : Document) : Bool :=
  let names := document.operations.map Operation.name
  !names.isEmpty && decide names.Nodup && (names.length = 1 || names.all Option.isSome) &&
    decide (document.fragments.map Fragment.name).Nodup

end Document

/-! ### Expanded selections -/

/-- Selections in which fragments are replaced by what they select. -/
inductive Chosen where
  /-- A field, and what is selected of its value. -/
  | field (node : FieldNode) (selections : List Chosen)
  /-- What is selected if the object is of a type. -/
  | within (condition : Option String) (directives : List Annotation) (selections : List Chosen)
  deriving Inhabited

/-- The greatest number of selections that one may be nested in. -/
def depthLimit : Nat := 32

namespace Document

/-- The selections with fragments replaced by what they select; none if they are nested deeper than
a number of levels. A fragment that is not defined selects nothing. -/
def expand? (document : Document) : Nat → List Selection → Option (List Chosen)
  | 0, _ => none
  | depth + 1, selections =>
    selections.mapM fun selection =>
      match selection with
      | .field node [] => some (.field node [])
      | .field node inner => (expand? document depth inner).map (.field node)
      | .spread name directives =>
        match document.fragment? name with
        | none => some (.within none directives [])
        | some fragment =>
          (expand? document depth fragment.selections).map
            (.within (some fragment.condition) directives)
      | .inline condition directives inner =>
        (expand? document depth inner).map (.within condition directives)

end Document

/-- What an operation selects, fragments replaced by what they select; none if the selections are
nested too deep. -/
def Operation.expand? (operation : Operation) (document : Document) : Option (List Chosen) :=
  document.expand? (depthLimit + 1) operation.selections

end LinkedShapes.GraphQL
