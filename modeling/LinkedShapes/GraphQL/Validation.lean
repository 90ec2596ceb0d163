import LinkedShapes.GraphQL.Validation.Variable

/-!
# Validation

All that is wrong with a document, in the order in which it is told: what is wrong at the sites of
fragments and of operations, and then what is wrong with the document as a whole. The values that a
request gives for variables are taken into account.
-/

namespace LinkedShapes.GraphQL.TypeSystem

/-- The values for variables that are looked at in an operation: those of the request, unless it names
another operation. -/
def valuesFor (operation : Operation) (meant : Option String) (given : List (String × Json)) :
    List (String × Json) :=
  if meant.isNone || operation.name = meant then given else []

/-- The operations of a document that there is no root for. -/
def rootlessViolations (system : TypeSystem) (operation : Operation) : List Violation :=
  if (system.root? operation.kind).isSome then [] else [.noRoot operation.kind]

/-- What is wrong with the variables of an operation as a whole; one without a root is not looked
into. -/
def variableViolations (system : TypeSystem) (scopes : Scopes) (operation : Operation)
    (scope : Scope) : List Violation :=
  if (system.root? operation.kind).isSome then
    scopes.unusedVariables operation scope ++ scopes.undefinedVariables operation scope
  else []

/-- All that is wrong with a document, of whose operations the request may name one. An operation
without a root is told of twice. -/
def violations (system : TypeSystem) (document : Document) (meant : Option String)
    (given : List (String × Json)) : List Violation :=
  let scopes := system.scopes document
  let ofFragments := scopes.fragments.flatMap fun (_, scope) =>
    scope.flatMap (system.siteViolations document given)
  let ofOperations := scopes.operations.flatMap fun (operation, scope) =>
    scope.flatMap (system.siteViolations document (valuesFor operation meant given)) ++
      system.rootlessViolations operation
  let ofVariables := scopes.operations.flatMap fun (operation, scope) =>
    system.variableViolations scopes operation scope
  ofFragments ++ ofOperations ++ ofVariables ++ scopes.unused ++ scopes.cycles ++
    document.operations.flatMap system.rootlessViolations

end LinkedShapes.GraphQL.TypeSystem
