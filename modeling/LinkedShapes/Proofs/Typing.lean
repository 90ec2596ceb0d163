import LinkedShapes.Proofs.Agreement
import LinkedShapes.Proofs.Reading

/-!
# Entities are of their class

An entity is found by a query because a graph states its class: the look-up of one entity asks for this,
a collection lists the instances of the class, and a relation leads to those of the linked nodes that are
instances. The graph is shared by all that is read from the entity, and reading only adds graphs. So an
entity that was reached by any path of fields, with other fields read in between, has a node, and its graph
states the class of the field that it was reached through.

## Main statements

* `typed_of_returns_entryPoint`: the entities that an entry point is answered with.
* `typed_of_entityAt`: the entities that a field of an entity leads to.
* `reached_typed`: the entities at the end of any path.
-/

namespace LinkedShapes.Resolution

open Rdf Ldp Schema Attempt

section Entities

variable {σ : Type} {client : Client σ} {world after : World σ} {resolver : Resolver}
  {request : Request} {context next : Context} {result : Resolved} {field : Field} {place : Nat}
  {cls target : String} {class? : Option String}

/-! ### Typed contexts -/

/-- The context is of a node in a shared graph that states the node to be of a class, if one is given. -/
structure Context.IsTyped (context : Context) (world : World σ) (class? : Option String) : Prop where
  /-- The graph is shared. -/
  shared : context.graph < world.graphs.size
  /-- The graph states the class of the node. -/
  typed : ∃ node, context.subject = some node ∧
    ∀ cls, class? = some cls → Graph.typing node cls ∈ world.graph context.graph

/-- A context stays typed as long as its graph is not changed. -/
theorem Context.IsTyped.of_extends (isTyped : context.IsTyped world class?)
    (extended : world.Extends after) : context.IsTyped after class? := by
  obtain ⟨shared, node, subject, typed⟩ := isTyped
  refine ⟨Nat.lt_of_lt_of_le shared extended.size, node, subject, fun cls known => ?_⟩
  rw [extended.graph _ shared]
  exact typed cls known

/-- A context in a graph that was just made is typed if the graph states the class of its node. -/
theorem Context.IsTyped.of_push {graph : Graph} {node : Node}
    (made : after.graphs = world.graphs.push graph) (ref : context.graph = world.graphs.size)
    (subject : context.subject = some node) (typed : Graph.typing node cls ∈ graph) :
    context.IsTyped after (some cls) := by
  refine ⟨?_, node, subject, fun _ known => ?_⟩
  · rw [ref, made, Array.size_push]
    exact Nat.lt_succ_self _
  · rw [ref, World.graph_of_push made, ← Option.some.inj known]
    exact typed

/-! ### Entry points -/

/-- An entity that is looked up is of the class. -/
theorem typed_of_returns_lookUpInstance {node : Node}
    (ran : (lookUpInstance cls target node).Returns client world (some context) after) :
    context.IsTyped after (some cls) := by
  obtain ⟨kind, graph, -, -, typed, rfl, rfl⟩ := returns_lookUpInstance_iff.1 ran
  exact .of_push rfl rfl rfl typed

/-- The entities that are listed are of the class. -/
theorem typed_of_returns_lookUpCollection {contexts : List Context}
    (ran : (lookUpCollection cls target).Returns client world contexts after)
    (mem : context ∈ contexts) : context.IsTyped after (some cls) := by
  rw [lookUpCollection_eq] at ran
  obtain ⟨kind, _, -, ran⟩ := returns_bind.1 ran
  obtain ⟨resource, _, -, ran⟩ := returns_bind.1 ran
  obtain ⟨graph, between, -, ran⟩ := returns_bind.1 ran
  obtain ⟨ref, made, rfl⟩ := returns_bind_pure.1 ran
  obtain ⟨rfl, rfl⟩ := returns_newGraph.1 made
  obtain ⟨node, listed, rfl⟩ := List.mem_map.1 mem
  exact .of_push rfl (Context.graph_entity _ node) (Context.subject_entity _ node)
    (mem_sortedInstances.1 listed)

/-- An entry point is answered with entities of the class of its type. -/
theorem typed_of_returns_entryPoint
    (ran : (entryPoint resolver request).Returns client world result after)
    (led : result.entityAt place = some context) :
    context.IsTyped after (resolver.definition.classOf? request.field.type.name) := by
  rw [entryPoint_eq] at ran
  obtain ⟨cls, ofClass, ran⟩ := returns_lift_bind.1 ran
  rw [classOf?_of_classOf ofClass]
  obtain ⟨target, -, ran⟩ := returns_lift_bind.1 ran
  obtain ⟨node, -, ran⟩ := returns_lift_bind.1 ran
  cases node with
  | some node =>
    obtain ⟨found, looked, rfl⟩ := returns_bind_pure.1 ran
    cases found with
    | none => cases led
    | some found =>
      obtain rfl : found = context := Option.some.inj led
      exact typed_of_returns_lookUpInstance looked
  | none =>
    obtain ⟨contexts, looked, rfl⟩ := returns_bind_pure.1 ran
    have led : (Resolved.ofItems (contexts.map fun entity => .node (id entity))
        request.field.type.list).entityAt place = some context := led
    obtain ⟨_, mem, rfl⟩ := mem_of_entityAt led
    exact typed_of_returns_lookUpCollection looked mem

/-! ### Relations -/

/-- A field of an entity leads to entities of the class of its type. -/
theorem typed_of_entityAt {owner : Option String} (isTyped : context.IsTyped world owner)
    (led : (readField resolver field context (world.graph context.graph)).entityAt place =
      some next) :
    next.IsTyped world (resolver.definition.classOf? field.type.name) := by
  obtain ⟨node, property, -, -, n, linked, rfl⟩ := exists_linked_of_entityAt led
  refine ⟨?_, n, context.subject_entity n, ?_⟩
  · rw [context.graph_entity]
    exact isTyped.shared
  · rw [context.graph_entity]
    exact (mem_linkedNodes.1 linked).2

/-! ### Paths -/

/-- An entity is reached through a field in a world: by a query, or by a field of an entity that was
reached before, with other fields read in between. -/
inductive Reached (resolver : Resolver) (client : Client σ) : Field → Context → World σ → Prop where
  /-- An entry point is answered with the entity, alone or at a place of a list. -/
  | entry {request : Request} {world after : World σ} {result : Resolved} {place : Nat}
      {context : Context} (queries : request.Queries) (entry : ¬ Reads request.field)
      (ran : (resolver.resolve request).Returns client world result after)
      (led : result.entityAt place = some context) : Reached resolver client request.field context after
  /-- A field of an entity that was reached leads to the entity. -/
  | member {field : Field} {context next : Context} {request : Request} {world after : World σ}
      {result : Resolved} {place : Nat} (reached : Reached resolver client field context world)
      (reads : Reads request.field) (parent : request.parent = some context)
      (ran : (resolver.resolve request).Returns client world result after)
      (led : result.entityAt place = some next) : Reached resolver client request.field next after
  /-- Another field is read, whether it is answered or fails. -/
  | other {field : Field} {context : Context} {request : Request} {world : World σ}
      (reached : Reached resolver client field context world) (queries : request.Queries) :
      Reached resolver client field context (resolver.settle client world request)

/-- Every step of a path leads to an entity of the class of its field. -/
theorem Reached.isTyped (reached : Reached resolver client field context world) :
    context.IsTyped world (resolver.definition.classOf? field.type.name) := by
  induction reached with
  | entry queries entry ran led =>
    rw [queries.resolve_eq entry] at ran
    exact typed_of_returns_entryPoint ran led
  | @member field context next request world after result place reached reads parent ran led isTyped =>
    have read : (resolver.resolve request).Returns client world _ world :=
      returns_resolve_of_reads reads parent
    obtain ⟨answer, rfl⟩ := Prod.mk.inj (read.symm.trans ran)
    obtain rfl := Except.ok.inj answer
    exact typed_of_entityAt isTyped led
  | other reached queries isTyped =>
    exact isTyped.of_extends ((queries.inquires resolver).runIn_extends client _)

/-- An entity that is reached through a field by any path is a node that its graph states to be of the
class of the field, and its identifier is not null. -/
theorem reached_typed (reached : Reached resolver client field context world) :
    (∃ node, context.subject = some node ∧
      ∀ cls, resolver.definition.classOf? field.type.name = some cls →
        Graph.typing node cls ∈ world.graph context.graph) ∧
    ∀ request : Request, request.field.directive = some .identifier → request.parent = some context →
      ∃ text, (resolver.resolve request).Returns client world (.scalar (.string text)) world := by
  obtain ⟨-, node, subject, typed⟩ := reached.isTyped
  refine ⟨⟨node, subject, typed⟩, fun request identifier parent => ?_⟩
  have read : (resolver.resolve request).Returns client world _ world :=
    returns_resolve_of_reads (Or.inl identifier) parent
  refine ⟨identifierOf node context.url, ?_⟩
  simpa only [readField, identifier, Context.identifier?, subject, Option.map_some] using read

end Entities

open AddressBook

/-- The query for a contact by an identifier. -/
def contactQuery : Request :=
  field queryType "contact" [(identifierField, .string "http://example.org/contacts/ada#ada")] none

/-- Whom a contact knows is a contact, and has an identifier. -/
theorem reached_typed_knows :
    ∃ (joe : Context) (node : Node) (world : World Store) (text : String),
      Reached resolver Store.client (field "Contact" "knows" [] none).field joe world ∧
      joe.subject = some node ∧ Graph.typing node person ∈ world.graph joe.graph ∧
      (resolver.resolve (field "Contact" identifierField [] (some joe))).Returns Store.client world
        (.scalar (.string text)) world := by
  have finds : contactQuery.Finds "Contact" "http://example.org/contacts/ada#ada" :=
    ⟨by decide, by decide, rfl, rfl⟩
  obtain ⟨world, ran, made⟩ := returns_instance_of_typing finds (by decide +kernel)
    (show resolver.classOf "Contact" = .ok person from rfl)
    (show resolver.target person = .ok AddressBook.container from rfl)
    (show stored.resources.kindOf AddressBook.container = .ok .container from rfl)
    (show stored.resources.graphOf document = .ok (Graph.ofList triples) from rfl) (by decide)
  let found : Context :=
    { subject := some (.iri "http://example.org/contacts/ada#ada"), graph := 1, kind := .container,
      url := document }
  let joe : Context := found.entity (.iri "http://example.org/contacts/ada#joe")
  let knows := field "Contact" "knows" [] (some found)
  have entered : Reached resolver Store.client contactQuery.field found world :=
    .entry (.outside (by decide) nofun) finds.entry ran (show Resolved.entityAt _ 0 = _ from rfl)
  have read : (resolver.resolve knows).Returns Store.client world _ world :=
    returns_resolve_of_reads (by decide) rfl
  have graph : world.graph found.graph = Graph.ofList triples := World.graph_of_push made
  have led : (readField resolver knows.field found (Graph.ofList triples)).entityAt 0 = some joe := by
    decide +kernel
  have reached : Reached resolver Store.client knows.field joe world :=
    entered.member (by decide) rfl read (graph ▸ led)
  obtain ⟨⟨node, subject, typed⟩, identifier⟩ := reached_typed reached
  obtain ⟨text, answered⟩ := identifier (field "Contact" identifierField [] (some joe)) rfl rfl
  exact ⟨joe, node, world, text, reached, subject, typed person rfl, answered⟩

end LinkedShapes.Resolution
