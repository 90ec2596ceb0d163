import LinkedShapes.GraphQL.Validation.Fragment

/-!
# Rules for variables

The variables of an operation are used, and what is used is defined. A fragment uses the variables of
the operation that uses it.
-/

namespace LinkedShapes.GraphQL.Scopes

/-- The names of the variables that a scope and the fragments that it uses use. -/
def usedVariables (scopes : Scopes) (scope : Scope) : List String :=
  (scopes.reachable scope).flatMap Scope.variableNames

/-- The variables that an operation uses and does not define; `scope` holds its sites. -/
def undefinedVariables (scopes : Scopes) (operation : Operation) (scope : Scope) :
    List Violation :=
  ((scopes.usedVariables scope).filter fun name =>
    !operation.definitions.any (·.name = name)).map .undefinedVariable

/-- The variables that an operation defines and does not use; `scope` holds its sites. -/
def unusedVariables (scopes : Scopes) (operation : Operation) (scope : Scope) :
    List Violation :=
  let used := scopes.usedVariables scope
  (operation.definitions.filter fun definition => definition.name ∉ used).map fun definition =>
    .unusedVariable definition.name

end LinkedShapes.GraphQL.Scopes
