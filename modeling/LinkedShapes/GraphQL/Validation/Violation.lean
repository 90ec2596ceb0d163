import LinkedShapes.GraphQL.Validation.Value

/-!
# Violations

What may be wrong with a document that can be read. A document with a violation is not executed.
-/

namespace LinkedShapes.GraphQL

/-- A rule that a document breaks, and where. -/
inductive Violation where
  /-- There is no root for the operations of a kind. -/
  | noRoot (kind : OperationKind)
  /-- A type does not have a field. -/
  | unknownField (typeName field : String)
  /-- Something is selected of a value without parts. -/
  | partsOfLeaf (field : String)
  /-- Nothing is selected of an object. -/
  | nothingSelected (field : String)
  /-- Two fields are answered under one key and are not alike. -/
  | conflict (key : String)
  /-- An argument is not declared. -/
  | unknownArgument (name : String)
  /-- An argument is given twice. -/
  | repeatedArgument (name : String)
  /-- An argument must be given. -/
  | missingArgument (name : String)
  /-- The value of an argument is not of its type; the way to the part that is at fault starts with
  the name of the argument. -/
  | wrongArgument (misfit : Misfit)
  /-- A directive is not declared. -/
  | unknownDirective (name : String)
  /-- A directive may not stand where it does. -/
  | misplacedDirective (name : String)
  /-- A directive is given twice. -/
  | repeatedDirective (name : String)
  /-- A type is not defined. -/
  | unknownType (name : String)
  /-- A condition is not on an object type. -/
  | conditionOnLeaf (name : String)
  /-- No object fits the conditions of a fragment and of the place where it is used. -/
  | impossibleCondition (name : String)
  /-- A fragment is not defined. -/
  | unknownFragment (name : String)
  /-- A fragment is not used. -/
  | unusedFragment (name : String)
  /-- A fragment is used within itself. -/
  | cyclicFragment (name : String)
  /-- A variable is defined twice. -/
  | repeatedVariable (name : String)
  /-- A variable is used and not defined. -/
  | undefinedVariable (name : String)
  /-- A variable is defined and not used. -/
  | unusedVariable (name : String)
  /-- The type of a variable is not one of values that are asked for. -/
  | outputVariable (name : String)
  /-- The default of a variable is not of its type. -/
  | wrongDefault (name : String) (misfit : Misfit)
  deriving DecidableEq, Inhabited

namespace Violation

/-- What is said of a violation. -/
def message : Violation → String
  | wrongArgument misfit => "Invalid value for argument " ++ misfit.message
  | _ => "The query is not valid"

/-- Whether a document is given up at a violation: a default of a type that is not defined can not be
judged. -/
def isFinal : Violation → Bool
  | wrongDefault _ ⟨_, .undefinedType _⟩ => true
  | _ => false

end Violation

end LinkedShapes.GraphQL
