import LinkedShapes.GraphQL.Execution
import LinkedShapes.GraphQL.Grammar
import LinkedShapes.GraphQL.Validation

/-!
# Requests

A request is a document with values for its variables, and the name of one of its operations if there
are several. A document is read and validated as a whole before one of its operations is executed.
-/

namespace LinkedShapes.GraphQL

open Resolution (Program Resolver)

/-- A request. -/
structure Request where
  /-- The document. -/
  query : String
  /-- The name of the operation. -/
  operation : Option String := none
  /-- The values of the variables. -/
  bindings : List (String × Json) := []
  deriving Inhabited

/-- The answer to a request. -/
structure Response where
  /-- What was selected, as far as it could be answered. -/
  data : Json := .null
  /-- What is wrong. -/
  errors : List RequestError := []
  deriving Inhabited

/-- The operation of a document that is meant, with what it selects. Where no name is given there must
be a single operation. -/
def meantOperation? (operations : List (Operation × List Chosen)) (name : Option String) :
    Option (Operation × List Chosen) :=
  match name with
  | some name => operations.find? (·.1.name = some name)
  | none =>
    match operations with
    | [operation] => some operation
    | _ => none

/-- The operation of a request with what it selects, if nothing is wrong with the document. -/
def TypeSystem.prepare (system : TypeSystem) (request : Request) :
    Except (List RequestError) (Operation × List Chosen) :=
  match Document.read? request.query with
  | none => .error [.unreadable]
  | some document =>
    match document.operations.mapM fun operation =>
        (operation.expand? document).map (operation, ·) with
    | none => .error [.tooDeep]
    | some operations =>
      match system.violations document request.operation request.bindings with
      | [] =>
        match meantOperation? operations request.operation with
        | none => .error [.unknownOperation]
        | some meant => .ok meant
      | violations =>
        if violations.any Violation.isFinal then .error [.undefinedDefault]
        else .error (violations.map .violation)

/-- The answer to a request. -/
def TypeSystem.respond (system : TypeSystem) (resolver : Resolver) (request : Request) :
    Program Response :=
  match system.prepare request with
  | .error errors => .done { errors }
  | .ok (operation, chosen) => do
    let executor : Executor := ⟨resolver, system, operation, request.bindings⟩
    let (data, errors) ← (executor.execute chosen).run []
    return { data, errors }

end LinkedShapes.GraphQL
