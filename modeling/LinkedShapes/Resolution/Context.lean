import LinkedShapes.Resolution.Error
import LinkedShapes.Resolution.Identifier
import LinkedShapes.Resolution.Program

/-!
# Contexts and values

The value of a field is null, a scalar, a list of values, or an entity. An entity is a context: its
node, the graph that its fields are read from, and the document that its changes are sent to.

## Main statements

* `subject_entity`, `graph_entity`: the context of a node is of this node, in the same graph.
* `handled_entity`: it is below a mutation if the context that it is read from is.
-/

namespace LinkedShapes.Resolution

open Rdf Ldp Schema

/-- What the fields of an entity are resolved from. -/
structure Context where
  /-- The node of the entity, if there is one. -/
  subject : Option Node := none
  /-- The graph that the fields are read from. -/
  graph : GraphRef
  /-- The kind of the resource that the entity was looked up in. -/
  kind : ResourceKind
  /-- The URL of the document that holds the entity. -/
  url : String
  /-- Whether a mutation was made on the way to this context. -/
  handled : Bool := false
  deriving DecidableEq, Inhabited

namespace Context

/-- The context of a node in the same graph. -/
def ofSubject (context : Context) (subject : Node) : Context :=
  { context with subject := some subject }

/-- The context after a mutation. -/
def afterMutation (context : Context) : Context := { context with handled := true }

/-- The identifier of the entity, if there is one. -/
def identifier? (context : Context) : Option String :=
  context.subject.map (identifierOf · context.url)

/-- The context of a node read from this one: a node with an IRI that was found below a container
is held by the document of its IRI. -/
def entity (context : Context) (node : Node) : Context :=
  match node, context.kind with
  | .iri text, .container => { context with url := documentUrl text, subject := some node }
  | _, _ => context.ofSubject node

@[simp]
theorem subject_entity (context : Context) (node : Node) :
    (context.entity node).subject = some node := by
  rcases context with ⟨_, _, kind, _, _⟩
  cases node <;> cases kind <;> rfl

@[simp]
theorem graph_entity (context : Context) (node : Node) :
    (context.entity node).graph = context.graph := by
  rcases context with ⟨_, _, kind, _, _⟩
  cases node <;> cases kind <;> rfl

@[simp]
theorem handled_entity (context : Context) (node : Node) :
    (context.entity node).handled = context.handled := by
  rcases context with ⟨_, _, kind, _, _⟩
  cases node <;> cases kind <;> rfl

end Context

/-- The value of a field. -/
inductive Resolved where
  /-- No value. -/
  | null
  /-- A scalar. -/
  | scalar (value : Json)
  /-- A list of values. -/
  | list (items : List Resolved)
  /-- An entity. -/
  | node (context : Context)
  deriving Inhabited

namespace Resolved

/-- The items as a list, or the first one of them where one value is asked for. -/
def ofItems (items : List Resolved) (list : Bool) : Resolved :=
  if list then .list items else items.headD .null

/-- The entity, or null if there is none. -/
def ofContext? (context : Option Context) : Resolved :=
  match context with
  | some c => .node c
  | none => .null

end Resolved

/-- A program that may end with an error. -/
abbrev Attempt := ExceptT ResolveError Program

namespace Attempt

/-- Asks for the kind of a resource. -/
def askKind (url : String) : Attempt (Except Failure ResourceKind) :=
  ExceptT.lift (.kind url .done)

/-- Asks for the triples of a resource. -/
def askDownload (url : String) : Attempt (Except Failure Graph) :=
  ExceptT.lift (.download url .done)

/-- The answer of a call, or the error that the call failed. -/
def answered {α : Type} (answer : Except Failure α) : Attempt α :=
  match answer with
  | .ok value => pure value
  | .error failure => throw (.transport failure)

/-- The kind of a resource. -/
def kind (url : String) : Attempt ResourceKind := do answered (← askKind url)

/-- The triples of a resource. -/
def download (url : String) : Attempt Graph := do answered (← askDownload url)

/-- Changes a resource. -/
def write (url : String) (change : Write) : Attempt Unit := do
  answered (← ExceptT.lift (.write url change .done))

/-- Makes a shared graph. -/
def newGraph (graph : Graph) : Attempt GraphRef :=
  ExceptT.lift (.newGraph graph .done)

/-- Reads a shared graph. -/
def readGraph (ref : GraphRef) : Attempt Graph :=
  ExceptT.lift (.readGraph ref .done)

/-- Changes a shared graph. -/
def changeGraph (ref : GraphRef) (patch : Patch) : Attempt Unit :=
  ExceptT.lift (.changeGraph ref patch (.done ()))

/-- Draws a name. -/
def freshName : Attempt String := ExceptT.lift (.freshName .done)

/-- The result of a look-up in the schema. -/
def ofSchema {α : Type} (result : Except SchemaError α) : Attempt α :=
  match result with
  | .ok value => pure value
  | .error cause => throw (.schema cause)

end Attempt

/-- The schema that fields are resolved in, and where the instances of classes are kept. -/
structure Resolver where
  /-- The schema. -/
  definition : Definition
  /-- The URL of the resource that holds the instances of a class, if it is known. -/
  target? : String → Option String

namespace Resolver

/-- The class of the instances of a type. -/
def classOf (resolver : Resolver) (typeName : String) : Except ResolveError String :=
  match resolver.definition.classOf? typeName with
  | some cls => .ok cls
  | none => .error (.missingClass typeName)

/-- The URL of the resource that holds the instances of a class. -/
def target (resolver : Resolver) (cls : String) : Except ResolveError String :=
  match resolver.target? cls with
  | some url => .ok url
  | none => .error (.noTarget cls)

end Resolver

/-- A field to resolve. -/
structure Request where
  /-- The type that the field belongs to. -/
  owner : ObjectType
  /-- The field. -/
  field : Field
  /-- The values of the arguments, sorted by name. -/
  arguments : List (String × Json)
  /-- The context of the entity that the field belongs to; a field of a root has none. -/
  parent : Option Context

namespace Request

/-- The value of an argument, unless it is null. -/
def argument? (request : Request) (name : String) : Option Json :=
  (Json.find? request.arguments name).filter (!·.isNull)

/-- The context of the entity that the field belongs to. -/
def context (request : Request) : Except ResolveError Context :=
  match request.parent with
  | some context => .ok context
  | none => .error (.missingContext request.field.name)

/-- Whether the field belongs to the root of mutations or to a mutator. -/
def isMutation (request : Request) : Bool :=
  request.owner.name = mutationType ||
    match request.owner.kind with
    | .mutator _ => true
    | _ => false

/-- Whether a mutation was made on the way to the field. -/
def isHandled (request : Request) : Bool := request.parent.any Context.handled

end Request

/-- The IRI that an argument identifies an entity by. -/
def parseIdentifier (value : Json) (name url : String) : Except ResolveError String :=
  match identifierIri? value url with
  | none => .error (.invalidArgument name .notText)
  | some (.error fault) => .error (.invalidArgument name (.notIri fault))
  | some (.ok iri) => .ok iri

end LinkedShapes.Resolution
