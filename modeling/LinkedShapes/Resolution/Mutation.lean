import LinkedShapes.Json.Printer
import LinkedShapes.Resolution.Minting
import LinkedShapes.Resolution.Query
import LinkedShapes.Resolution.Reachability
import LinkedShapes.Schema.Generation

/-!
# Mutations

Creating, changing and deleting entities. Each change is one write to the document of the entity: it is
sent first, and the graph that the fields are read from is changed in the same way after it was
accepted.
-/

namespace LinkedShapes.Resolution

open Rdf Ldp Schema

/-! ### Kinds of mutations -/

/-- A change of a relation of an entity. -/
inductive RelationChange where
  /-- Puts a new entity in the place of the linked ones. -/
  | set
  /-- Removes all links. -/
  | clear
  /-- Links a new entity. -/
  | add
  /-- Removes the link to an entity. -/
  | remove
  /-- Links an entity that exists. -/
  | link
  /-- Removes the link to an entity. -/
  | unlink
  deriving DecidableEq, Inhabited

/-- What a field of the root of mutations or of a mutator does. -/
inductive MutationKind where
  /-- Removes the entity. -/
  | delete
  /-- Changes the scalars of the entity. -/
  | update
  /-- Makes a new entity. -/
  | create
  /-- Looks up the entity to change. -/
  | mutate
  /-- Changes a relation of the entity. -/
  | relation (change : RelationChange)
  /-- Reads, as a query does. -/
  | read
  deriving DecidableEq, Inhabited

/-- The verbs that stand before the name of a type or a relation. -/
def verbs : List (String × MutationKind) :=
  [("create", .create), ("mutate", .mutate), ("set", .relation .set), ("clear", .relation .clear),
   ("add", .relation .add), ("remove", .relation .remove), ("link", .relation .link),
   ("unlink", .relation .unlink)]

/-- The text after a verb, if the name is the verb and something after it. -/
def afterVerb? (verb name : String) : Option String :=
  if verb.toList.isPrefixOf name.toList && verb.toList.length < name.toList.length then
    some (String.ofList (name.toList.drop verb.toList.length))
  else none

/-- The kind of the mutation that a field of a name makes, and the part of the name after the
verb. -/
def MutationKind.ofName (name : String) : MutationKind × String :=
  if name = "delete" then (.delete, "")
  else if name = "update" then (.update, "")
  else
    match verbs.findSome? fun (verb, kind) => (afterVerb? verb name).map (kind, ·) with
    | some found => found
    | none => (.read, name)

/-! ### Parts of a request -/

/-- The IRI of the entity that a field belongs to. -/
def namedSubject (request : Request) (context : Context) : Except ResolveError String :=
  match context.subject with
  | some (.iri text) => .ok text
  | some node => .error (.notNamed node)
  | none => .error (.missingContext request.field.name)

/-- The IRI of the entity that the identifier argument names, against a URL. -/
def identifierArgument (request : Request) (url : String) : Except ResolveError String :=
  match request.argument? identifierField with
  | none => .error (.invalidArgument identifierField .missingIdentifier)
  | some value => parseIdentifier value identifierField url

/-- The input argument: its type and its members. -/
def inputObject (resolver : Resolver) (request : Request) :
    Except ResolveError (InputType × List (String × Json)) :=
  match request.field.argument? inputArgument with
  | none => .error (.invalidArgument inputArgument .notDeclared)
  | some argument =>
    match resolver.definition.input argument.type.name with
    | .error cause => .error (.schema cause)
    | .ok type =>
      match request.argument? inputArgument with
      | some (.object values) => .ok (type, values)
      | _ => .error (.invalidArgument inputArgument .notObject)

/-- The field of an input that a member is for. -/
def inputField (type : InputType) (name : String) : Except ResolveError InputField :=
  match type.field? name with
  | some field => .ok field
  | none => .error (.invalidArgument name (.notField type.name))

/-- The values of an input field that are written: the items of a list or one value, nulls left
out. -/
def writtenValues (value : Json) : List Json :=
  (match value with
    | .array items => items
    | value => [value]).filter (!·.isNull)

/-- The literals that the value of an input field stands for. -/
def literalsOf (field : InputField) (property : String) (value : Json) :
    Except ResolveError (List Literal) :=
  match field.type.scalar? with
  | none => .error (.schema (.nonScalarInput field.name field.type.name))
  | some scalar =>
    let datatype := field.datatype.getD scalar.defaultDatatype
    (writtenValues value).mapM fun item =>
      match scalar.literal? item datatype with
      | some literal => .ok literal
      | none => .error (.invalidValue property scalar item.text)

/-- The triple that gives an entity a literal. -/
def literalTriple (subject property : String) (literal : Literal) : Triple :=
  ⟨.iri subject, property, .literal literal⟩

/-- The triple that links two entities. -/
def linkTriple (subject property object : String) : Triple :=
  ⟨.iri subject, property, .iri object⟩

/-- The triples that the members of an input state about an entity; members whose field stands for
no predicate state nothing. -/
def statedTriples (subject : String) (type : InputType) (values : List (String × Json)) :
    Except ResolveError (List Triple) := do
  let triples ← values.mapM fun (name, value) => do
    let field ← inputField type name
    match field.property? with
    | none => return []
    | some property =>
      return (← literalsOf field property value).map (literalTriple subject property)
  return triples.flatten

/-! ### Creating -/

/-- Fails if there is a resource at a URL. -/
def ensureAbsent (url : String) : Attempt Unit := do
  match ← Attempt.askKind url with
  | .ok _ => throw (.alreadyExists url)
  | .error failure => if failure.isNotFound then return else throw (.transport failure)

/-- Makes an entity: in a container in a new document, else in the document. -/
def create (resolver : Resolver) (request : Request) : Attempt Resolved := do
  let cls ← resolver.classOf request.field.type.name
  let target ← resolver.target cls
  let (type, values) ← inputObject resolver request
  let kind ← Attempt.kind target
  let (document, subject) ← match kind with
    | .container => do
      let (document, subject) ← mintDocument target values
      ensureAbsent document
      pure (document, subject)
    | .document => do pure (target, ← mintSubject target values)
  let inserts := Graph.typing (.iri subject) cls :: (← statedTriples subject type values)
  match kind with
  | .container => Attempt.write document (.put (Graph.ofList inserts))
  | .document => Attempt.write document (.patch { inserts })
  let ref ← Attempt.newGraph (Graph.ofList inserts)
  return .node { subject := some (.iri subject), graph := ref, kind := kind, url := document,
                 handled := true }

/-- Looks up the entity that a mutator changes. -/
def mutate (resolver : Resolver) (request : Request) : Attempt Resolved := do
  let cls ← resolver.classOf request.field.type.name
  let target ← resolver.target cls
  let iri ← identifierArgument request target
  return .ofContext? (← lookUpInstance cls target (.iri iri))

/-! ### Changing -/

/-- Sends a patch to the document of a context, then changes the graph of the context; an empty
patch is not sent. -/
def applyPatch (context : Context) (patch : Patch) : Attempt Unit := do
  if patch.isEmpty then return
  Attempt.write context.url (.patch patch)
  Attempt.changeGraph context.graph patch

/-- Removes an entity: its document if it was looked up in a container, else its triples. The result
reads like the entity did, with all that could be reached from it, from a graph of its own. -/
def delete (request : Request) : Attempt Resolved := do
  let context ← request.context
  let subject ← namedSubject request context
  let graph ← Attempt.readGraph context.graph
  let deletes := graph.about (.iri subject)
  let reachable := graph.reachable (.iri subject)
  match context.kind with
  | .container => Attempt.write context.url .delete
  | .document =>
    unless deletes.isEmpty do Attempt.write context.url (.patch { deletes })
  Attempt.changeGraph context.graph { deletes }
  let removed ← Attempt.newGraph (Graph.ofList (deletes ++ reachable))
  return .node { context with graph := removed, handled := true }

/-- The patch that also changes what a member of an input says, given the graph before the update:
the values of its predicate are replaced. -/
def updateMember (entity : ObjectType) (type : InputType) (subject : String) (graph : Graph)
    (patch : Patch) (member : String × Json) : Except ResolveError Patch := do
  let (name, value) := member
  let field ← inputField type name
  match field.property? with
  | none => return patch
  | some property =>
    if value.isNull && (entity.field? name).any (·.type.nonNull) then
      throw (.nullOnNonNullable entity.name name)
    let literals ← literalsOf field property value
    return (patch.deleteAll (graph.values (.iri subject) property)).insertAll
      (literals.map (literalTriple subject property))

/-- The patch that makes all the changes that an input says. -/
def updatePatch (entity : ObjectType) (type : InputType) (subject : String) (graph : Graph)
    (values : List (String × Json)) : Except ResolveError Patch :=
  values.foldlM (updateMember entity type subject graph) Patch.empty

/-- Replaces the values of the predicates that an input names. -/
def update (resolver : Resolver) (request : Request) : Attempt Resolved := do
  let context ← request.context
  let subject ← namedSubject request context
  let entity ← Attempt.ofSchema (resolver.definition.object request.field.type.name)
  let (type, values) ← inputObject resolver request
  let graph ← Attempt.readGraph context.graph
  let patch ← updatePatch entity type subject graph values
  applyPatch context patch
  return .node context.afterMutation

/-- The relation that a mutator changes: the field of the entity named after the verb. -/
def changedRelation (resolver : Resolver) (request : Request) (suffix : String) :
    Except ResolveError (Field × String) :=
  match request.owner.kind with
  | .mutator entity =>
    match resolver.definition.object entity with
    | .error cause => .error (.schema cause)
    | .ok type =>
      let name := Text.decapitalize suffix
      match type.field? name with
      | none => .error (.schema (.unknownType (entity ++ "." ++ name)))
      | some field =>
        match field.property? with
        | none => .error (.schema (.unknownType (entity ++ "." ++ name)))
        | some property => .ok (field, property)
  | _ => .error (.schema (.unknownType (mutatorName request.owner.name)))

/-- The patch that links a new entity, after `deletes` are removed. -/
def newLinkPatch (resolver : Resolver) (request : Request) (context : Context)
    (subject property : String) (field : Field) (deletes : List Triple) : Attempt Patch := do
  let cls ← resolver.classOf field.type.name
  let (type, values) ← inputObject resolver request
  let child ← mintSubject context.url values
  let stated ← statedTriples child type values
  return ((((Patch.empty.deleteAll deletes).insert (Graph.typing (.iri child) cls)).insertAll
    stated).insert (linkTriple subject property child))

/-- The patch that changes a relation, given the links before the change. -/
def relationPatch (resolver : Resolver) (request : Request) (context : Context)
    (subject property : String) (field : Field) (links : List Triple) :
    RelationChange → Attempt Patch
  | .set => newLinkPatch resolver request context subject property field links
  | .add => newLinkPatch resolver request context subject property field []
  | .clear => return Patch.empty.deleteAll links
  | .link => do
    let linked := linkTriple subject property (← identifierArgument request context.url)
    let replaced := if field.type.list then [] else links.filter (· ≠ linked)
    return (Patch.empty.deleteAll replaced).insert linked
  | .remove | .unlink => do
    let linked := linkTriple subject property (← identifierArgument request context.url)
    return if linked ∈ links then Patch.empty.delete linked else Patch.empty

/-- Changes a relation of an entity. -/
def changeRelation (resolver : Resolver) (request : Request) (change : RelationChange)
    (suffix : String) : Attempt Resolved := do
  let context ← request.context
  let subject ← namedSubject request context
  let (field, property) ← changedRelation resolver request suffix
  let graph ← Attempt.readGraph context.graph
  let links := graph.values (.iri subject) property
  let patch ← relationPatch resolver request context subject property field links change
  applyPatch context patch
  return .node context.afterMutation

/-- Makes the change that a field stands for. -/
def resolveMutation (resolver : Resolver) (request : Request) : Attempt Resolved :=
  match MutationKind.ofName request.field.name with
  | (.create, _) => create resolver request
  | (.mutate, _) => mutate resolver request
  | (.delete, _) => delete request
  | (.update, _) => update resolver request
  | (.relation change, suffix) => changeRelation resolver request change suffix
  | (.read, _) => entryPoint resolver request

end LinkedShapes.Resolution
