import LinkedShapes.GraphQL.Answer
import LinkedShapes.GraphQL.Description
import LinkedShapes.GraphQL.Validation.Violation
import LinkedShapes.Resolution.Field

/-!
# Execution

The answer to an operation: the value of each selected field, in the order in which the document selects
them, and what is selected of it. Fields of a schema are resolved; fields that describe types are read
off the type system. A field that fails is answered by null; its error is noted and the other fields
are answered all the same.

## Main statements

* `attempt_ok`, `attempt_error`: what a field that succeeds or fails is answered by.
-/

namespace LinkedShapes.GraphQL

open Resolution Schema

/-- Why a request has no answer. -/
inductive RequestError where
  /-- The document can not be read. -/
  | unreadable
  /-- Selections are nested too deep. -/
  | tooDeep
  /-- The document breaks a rule. -/
  | violation (cause : Violation)
  /-- A default in the document is of a type that is not defined. -/
  | undefinedDefault
  /-- It is not known which operation is meant. -/
  | unknownOperation
  /-- A variable has no value. -/
  | noValue
  /-- The value of a field is not of its type. -/
  | wrongValue (field : String)
  /-- A field could not be resolved. -/
  | unresolved (cause : ResolveError)
  deriving DecidableEq, Inhabited

/-- What is said of an error. -/
def RequestError.message : RequestError → String
  | .unreadable => "The query can not be read"
  | .tooDeep => "The query is nested too deep"
  | .violation cause => cause.message
  | .undefinedDefault => "The type of a default is not defined"
  | .unknownOperation => "There is no such operation"
  | .noValue => "A variable has no value"
  | .wrongValue field => "The value of " ++ field ++ " is not of its type"
  | .unresolved cause => cause.message

/-- A program that notes errors. -/
abbrev Execution := StateT (List RequestError) Program

/-- The execution of a field, which may fail. -/
abbrev FieldExecution := ExceptT RequestError Execution

namespace FieldExecution

/-- The resolution of a field as a part of its execution. -/
def ofAttempt {α : Type} (attempt : Attempt α) : FieldExecution α :=
  ExceptT.mk do
    match ← (attempt.run : Program (Except ResolveError α)) with
    | .ok value => return .ok value
    | .error cause => return .error (.unresolved cause)

/-- The answer to a field: null if it fails, and then its error is noted. -/
def attempt (field : FieldExecution Json) : Execution Json := do
  match ← field.run with
  | .ok value => return value
  | .error cause =>
    modify (· ++ [cause])
    return .null

theorem attempt_ok (value : Json) : attempt (pure value) = pure value := rfl

theorem attempt_error (cause : RequestError) :
    attempt (throw cause) = fun noted => .done (.null, noted ++ [cause]) := rfl

end FieldExecution

/-! ### Values of variables -/

/-- The value of a variable: the one that is given, else its default, else null if its type allows
that. -/
def Operation.valueOf? (operation : Operation) (given : List (String × Json)) (name : String) :
    Option Literal := do
  let definition ← operation.definitions.find? (·.name = name)
  (Json.find? given name).map .ofJson <|> definition.default <|>
    if definition.type.isNonNull then none else some .null

/-- The condition of a directive, where only values that are given count; a condition without a value
is false. -/
def Annotation.condition? (directive : Annotation) (given : List (String × Json)) : Option Bool :=
  (directive.arguments.find? "if").map fun value =>
    match value.substitute fun name => (Json.find? given name).map .ofJson with
    | some (.bool condition) => condition
    | _ => false

/-- Whether a part is left out by one of its directives. -/
def isLeftOut (given : List (String × Json)) (directives : List Annotation) : Bool :=
  directives.any fun directive =>
    (directive.name = "skip" && directive.condition? given = some true) ||
      (directive.name = "include" && directive.condition? given = some false)

mutual
/-- A selection without the parts of it that are left out, if it is not left out itself. -/
def Chosen.kept? (given : List (String × Json)) : Chosen → Option Chosen
  | .field node inner =>
    if isLeftOut given node.directives then none else some (.field node (keptOf given inner))
  | .within condition directives inner =>
    if isLeftOut given directives then none
    else some (.within condition directives (keptOf given inner))
/-- The selections that are not left out. -/
def keptOf (given : List (String × Json)) : List Chosen → List Chosen
  | [] => []
  | chosen :: rest =>
    match chosen.kept? given with
    | some chosen => chosen :: keptOf given rest
    | none => keptOf given rest
end

/-! ### Descriptions -/

namespace TypeSystem

mutual
/-- What is selected of a description, key by key. -/
def describe (system : TypeSystem) (described : Described) : Chosen → List (String × Json)
  | .within condition _ inner =>
    if condition.all (· = described.typeName) then describeAll system described inner else []
  | .field node inner =>
    let value :=
      if node.name = typeNameField then Json.string described.typeName
      else
        match system.detail described node.name with
        | .leaf value => value
        | .one part => .ofSelected (describeAll system part inner)
        | .many parts => .array (parts.map fun part => .ofSelected (describeAll system part inner))
    [(node.key, value)]
/-- What selections select of a description, key by key. -/
def describeAll (system : TypeSystem) (described : Described) :
    List Chosen → List (String × Json)
  | [] => []
  | chosen :: rest => describe system described chosen ++ describeAll system described rest
end

end TypeSystem

/-! ### Values of fields -/

mutual
/-- The answer to a field of a type with a value; `select` answers what is selected of an entity. -/
def complete (field : String) (select : Context → FieldExecution Json) (type : TypeRef) :
    Resolved → FieldExecution Json
  | .null => if type.isNonNull then throw (.wrongValue field) else return .null
  | .scalar value =>
    match type.nullable with
    | .list _ => throw (.wrongValue field)
    | _ => return value
  | .list items =>
    match type.nullable with
    | .list item => return .array (← completeItems field select item items)
    | _ => throw (.wrongValue field)
  | .node context =>
    match type.nullable with
    | .list _ => throw (.wrongValue field)
    | _ => select context
/-- The answers to the items of a list. -/
def completeItems (field : String) (select : Context → FieldExecution Json) (type : TypeRef) :
    List Resolved → FieldExecution (List Json)
  | [] => return []
  | value :: rest => do
    let first ← complete field select type value
    let others ← completeItems field select type rest
    return first :: others
end

/-- What an operation is executed with. -/
structure Executor where
  /-- How fields are resolved. -/
  resolver : Resolver
  /-- The types. -/
  system : TypeSystem
  /-- The operation. -/
  operation : Operation
  /-- The values that are given for variables. -/
  given : List (String × Json)

namespace Executor

variable (executor : Executor)

/-- The values of the arguments of a field. -/
def argumentsOf (node : FieldNode) : FieldExecution (List (String × Json)) := do
  let values ← node.arguments.mapM fun (name, value) =>
    match value.substitute (executor.operation.valueOf? executor.given) with
    | some value => return (name, value.toJson)
    | none => throw .noValue
  return Json.canonicalMembers values

/-- The description that a field of the root of queries asks for. -/
def described (node : FieldNode) : FieldExecution (Option Described) := do
  if node.name = schemaField then return some .schema
  else
    match Json.find? (← argumentsOf executor node) "name" with
    | some (.string name) =>
      return (executor.system.type? name).map fun type => .type (.named type.name)
    | _ => throw .noValue

/-- What is selected of what a field of the root of queries describes. -/
def describe (node : FieldNode) (inner : List Chosen) : FieldExecution Json := do
  match ← described executor node with
  | none => return .null
  | some part => return .ofSelected (executor.system.describeAll part inner)

/-- The value of a field of an object. -/
def resolve (type : ObjectType) (parent : Option Context) (field : Field) (node : FieldNode) :
    FieldExecution Resolved := do
  let arguments ← argumentsOf executor node
  FieldExecution.ofAttempt
    (executor.resolver.resolve { owner := type, field, arguments, parent })

mutual
/-- What is selected of an object of a type, key by key. -/
def select (executor : Executor) (type : ObjectType) (parent : Option Context) :
    Chosen → Execution (List (String × Json))
  | .within condition _ inner =>
    if condition.all (· = type.name) then selectAll executor type parent inner else return []
  | .field node inner => do
    if node.name = typeNameField then return [(node.key, .string type.name)]
    else if type.name = queryType && (node.name = schemaField || node.name = typeField) then
      return [(node.key, ← (describe executor node inner).attempt)]
    else
      match type.field? node.name with
      | none => return []
      | some field =>
        let value : FieldExecution Json := do
          let resolved ← resolve executor type parent field node
          complete field.name (fun context =>
            match executor.system.definition.object? field.type.name with
            | none => throw (.wrongValue field.name)
            | some entity => do
              return .ofSelected (← selectAll executor entity (some context) inner))
            (.ofExpr field.type) resolved
        return [(node.key, ← value.attempt)]
/-- What selections select of an object of a type, key by key. -/
def selectAll (executor : Executor) (type : ObjectType) (parent : Option Context) :
    List Chosen → Execution (List (String × Json))
  | [] => return []
  | chosen :: rest => do
    let first ← select executor type parent chosen
    let others ← selectAll executor type parent rest
    return first ++ others
end

/-- The answer to the operation, of which `chosen` is what it selects. -/
def execute (chosen : List Chosen) : Execution Json :=
  match (executor.system.root? executor.operation.kind).bind
      executor.system.definition.object? with
  | none => do
    modify (· ++ [.violation (.noRoot executor.operation.kind)])
    return .null
  | some root => do
    return .ofSelected (← selectAll executor root none (keptOf executor.given chosen))

end Executor

end LinkedShapes.GraphQL
