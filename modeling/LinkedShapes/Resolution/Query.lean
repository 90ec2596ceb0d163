import LinkedShapes.Resolution.Context

/-!
# Queries

Reading entities: one instance of a class, all instances of a class, the scalars of an entity, and
the entities that it is linked to. Nothing is written.
-/

namespace LinkedShapes.Resolution

open Rdf Ldp Schema

/-- The context of a node in the resource at a URL; none if the document does not exist or does not
state the node to be of the class. A node with an IRI is looked up in the document of its IRI if
the resource is a container. -/
def lookUpInstance (cls target : String) (node : Node) : Attempt (Option Context) := do
  let kind ← Attempt.kind target
  let document := match kind, node with
    | .container, .iri text => documentUrl text
    | _, _ => target
  match ← Attempt.askDownload document with
  | .error failure =>
    if failure.isNotFound then return none else throw (.transport failure)
  | .ok graph =>
    if graph.isInstance node cls then
      let ref ← Attempt.newGraph graph
      return some { subject := some node, graph := ref, kind := kind, url := document }
    else return none

/-- The URLs of the documents that a graph lists, in order. -/
def listedDocuments (listing : Graph) : List String :=
  let objects := (listing.find ⟨none, some Ldp.contains, none⟩).map Triple.object
  Text.sorted ((objects.filterMap Term.iri?).filter fun url => url.toList.getLast? ≠ some '/')

/-- The union of the graphs of some documents. -/
def downloadAll (urls : List String) : Attempt Graph :=
  urls.foldlM (fun merged url => return merged.merge (← Attempt.download url)) Graph.empty

/-- The nodes of a class in the order of their text. -/
def sortedInstances (graph : Graph) (cls : String) : List Node :=
  Text.sortBy Node.text (graph.instances cls)

/-- The contexts of all the nodes of a class in the resource at a URL. They share one graph, which is
the union of the listed documents if the resource is a container. -/
def lookUpCollection (cls target : String) : Attempt (List Context) := do
  let kind ← Attempt.kind target
  let resource ← Attempt.download target
  let graph ← match kind with
    | .document => pure resource
    | .container => downloadAll (listedDocuments resource)
  let ref ← Attempt.newGraph graph
  let root : Context := { graph := ref, kind := kind, url := target }
  return (sortedInstances graph cls).map root.entity

/-- One entity where an identifier is given or the parent has a node, else all the instances of the
class of the field's type. -/
def entryPoint (resolver : Resolver) (request : Request) : Attempt Resolved := do
  let cls ← resolver.classOf request.field.type.name
  let target ← resolver.target cls
  let node ← match request.argument? identifierField with
    | some value => do
      let iri ← parseIdentifier value identifierField target
      pure (some (Node.iri iri))
    | none => pure (request.parent.bind Context.subject)
  match node with
  | some node => return .ofContext? (← lookUpInstance cls target node)
  | none =>
    let contexts ← lookUpCollection cls target
    return .ofItems (contexts.map .node) request.field.type.list

/-- The scalars that a graph gives a node under a predicate, in the order of the text of their terms;
a term that does not stand for a value of the scalar is left out. -/
def scalarValues (graph : Graph) (node : Node) (property : String) (scalar : Scalar) :
    List Json :=
  let objects := (graph.values node property).map Triple.object
  (Text.sortBy Term.text objects).filterMap scalar.read?

/-- The nodes that a graph links a node to by a predicate, in the order of their text; where a class
is given, only its instances. -/
def linkedNodes (graph : Graph) (node : Node) (property : String) (cls : Option String) :
    List Node :=
  let nodes := (graph.values node property).filterMap fun t => t.object.node?
  Text.sortBy Node.text (nodes.filter fun n => cls.all (graph.isInstance n))

/-- The identifier of an entity. -/
def identifierValue (request : Request) : Attempt Resolved := do
  let context ← request.context
  return match context.identifier? with
    | some text => .scalar (.string text)
    | none => .null

/-- The scalars of an entity under a predicate. -/
def scalarProperty (request : Request) (property : String) (scalar : Scalar) :
    Attempt Resolved := do
  let context ← request.context
  match context.subject with
  | none => return .null
  | some node =>
    let graph ← Attempt.readGraph context.graph
    let values := scalarValues graph node property scalar
    return .ofItems (values.map .scalar) request.field.type.list

/-- The entities that an entity is linked to by a predicate. -/
def relationProperty (resolver : Resolver) (request : Request) (property : String) :
    Attempt Resolved := do
  let context ← request.context
  match context.subject with
  | none => return .null
  | some node =>
    let graph ← Attempt.readGraph context.graph
    let cls := resolver.definition.classOf? request.field.type.name
    let nodes := linkedNodes graph node property cls
    return .ofItems (nodes.map fun n => .node (context.entity n)) request.field.type.list

end LinkedShapes.Resolution
