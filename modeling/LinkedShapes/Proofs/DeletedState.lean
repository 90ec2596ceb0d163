import LinkedShapes.Proofs.Attempt
import LinkedShapes.Proofs.Reachable

/-!
# The state of a deleted entity

An entity that was removed is answered with its last state: its fields, those of the entities that
it was linked to, and so on, are read from a graph of their own, which was copied before the removal.
Whatever path of fields is followed, it reads there what it read from the entity before.

The copy says the same as the graph about the entity and all nodes that can be reached from it, and
a field of a node that can be reached leads to such nodes only, so that one step after the other
reads the same (`readField_movedTo`) and stays among them (`subject_of_entityAt`).

## Main statements

* `returns_resolve_of_reads`: what a field that is read from a context gives.
* `readPath_movedTo`: a path reads the same from a graph that says the same.
* `deleted_reads_same`: a path reads the same from the answer of a removal as before it.
-/

namespace LinkedShapes.Resolution

open Rdf Ldp Schema Attempt

section Removals

variable {σ : Type} {client : Client σ} {world after : World σ} {resolver : Resolver}
  {request : Request} {context next : Context} {graph copy : Graph} {nodes : List Node}
  {ref : GraphRef} {result : Resolved} {field : Field}

/-! ### Reading a field -/

/-- What a field that is read from a context gives, in the graph of the context. -/
def readField (resolver : Resolver) (field : Field) (context : Context) (graph : Graph) :
    Resolved :=
  match field.directive, context.subject with
  | some .identifier, _ =>
    match context.identifier? with
    | some text => .scalar (.string text)
    | none => .null
  | some (.property property), some node =>
    match field.type.scalar? with
    | some scalar =>
      .ofItems ((scalarValues graph node property scalar).map .scalar) field.type.list
    | none =>
      let cls := resolver.definition.classOf? field.type.name
      let linked := linkedNodes graph node property cls
      .ofItems (linked.map fun n => .node (context.entity n)) field.type.list
  | _, _ => .null

/-- A field that is read from a context always has a value, and changes nothing. -/
theorem returns_resolve_of_reads (reads : Reads request.field)
    (parent : request.parent = some context) :
    (resolver.resolve request).Returns client world
      (readField resolver request.field context (world.graph context.graph)) world := by
  have given := Request.context_of_parent parent
  rcases reads_iff.1 reads with identifier | ⟨property, stands⟩
  · simp only [Resolver.resolve, readField, identifier]
    refine (returns_lift_bind_of_eq given).2 ?_
    cases context.identifier? <;> exact returns_pure.2 ⟨rfl, rfl⟩
  · simp only [Resolver.resolve, readField, stands]
    cases request.field.type.scalar? with
    | some scalar =>
      refine (returns_lift_bind_of_eq given).2 ?_
      cases context.subject with
      | none => exact returns_pure.2 ⟨rfl, rfl⟩
      | some node => exact returns_readGraph_bind.2 (returns_pure.2 ⟨rfl, rfl⟩)
    | none =>
      refine (returns_lift_bind_of_eq given).2 ?_
      cases context.subject with
      | none => exact returns_pure.2 ⟨rfl, rfl⟩
      | some node => exact returns_readGraph_bind.2 (returns_pure.2 ⟨rfl, rfl⟩)

/-! ### Reading a path -/

/-- A step of a path: a field of an entity, and the place of the entity to go on from, if the field
has a list of them. -/
structure PathStep where
  /-- The type that the field belongs to. -/
  owner : ObjectType
  /-- The field. -/
  field : Field
  /-- The values of the arguments. -/
  arguments : List (String × Json)
  /-- The place in a list. -/
  place : Nat

/-- The request for the field of a step. -/
def PathStep.requestFrom (step : PathStep) (context : Context) : Request :=
  { owner := step.owner, field := step.field, arguments := step.arguments, parent := some context }

/-- What is seen of a value before the fields of its entities are read. -/
inductive Shown where
  /-- No value. -/
  | null
  /-- A scalar. -/
  | scalar (value : Json)
  /-- A list of values. -/
  | list (items : List Shown)
  /-- Some entity. -/
  | entity

mutual

/-- What is seen of a value. -/
def Resolved.shown : Resolved → Shown
  | .null => .null
  | .scalar value => .scalar value
  | .list items => .list (shownAll items)
  | .node _ => .entity

@[inherit_doc Resolved.shown]
def Resolved.shownAll : List Resolved → List Shown
  | [] => []
  | value :: rest => value.shown :: shownAll rest

end

/-- The entity that a value is, or that is at a place of a list. -/
def Resolved.entityAt (value : Resolved) (place : Nat) : Option Context :=
  match value with
  | .node context => some context
  | .list items =>
    match items[place]? with
    | some (.node context) => some context
    | _ => none
  | _ => none

/-- Reads the fields of a path, each from the entity that the one before it led to, and shows what
each of them gave; the path ends where there is no entity. -/
def readPath (resolver : Resolver) (context : Context) : List PathStep → Attempt (List Shown)
  | [] => return []
  | step :: rest => do
    let value ← resolver.resolve (step.requestFrom context)
    match value.entityAt step.place with
    | some next => return value.shown :: (← readPath resolver next rest)
    | none => return [value.shown]

/-! ### Reading from a copy -/

/-- The context with its fields read from another graph, after a change. -/
def Context.movedTo (context : Context) (ref : GraphRef) : Context :=
  { context with graph := ref, handled := true }

mutual

/-- The value with its entities moved to another graph. -/
def Resolved.movedTo (ref : GraphRef) : Resolved → Resolved
  | .null => .null
  | .scalar value => .scalar value
  | .list items => .list (movedAllTo ref items)
  | .node context => .node (context.movedTo ref)

@[inherit_doc Resolved.movedTo]
def Resolved.movedAllTo (ref : GraphRef) : List Resolved → List Resolved
  | [] => []
  | value :: rest => value.movedTo ref :: movedAllTo ref rest

end

mutual

/-- A value that is moved to another graph looks the same. -/
theorem shown_movedTo (value : Resolved) : (value.movedTo ref).shown = value.shown := by
  cases value with
  | null | scalar | node => rfl
  | list items => exact congrArg Shown.list (shownAll_movedAllTo items)

theorem shownAll_movedAllTo (items : List Resolved) :
    Resolved.shownAll (Resolved.movedAllTo ref items) = Resolved.shownAll items := by
  cases items with
  | nil => rfl
  | cons value rest =>
    have first := shown_movedTo value
    have others := shownAll_movedAllTo rest
    exact congrArg₂ List.cons first others

end

theorem movedAllTo_eq_map (items : List Resolved) :
    Resolved.movedAllTo ref items = items.map (Resolved.movedTo ref) := by
  induction items with
  | nil => rfl
  | cons value rest ih => rw [Resolved.movedAllTo, ih, List.map_cons]

theorem movedTo_ofItems (items : List Resolved) (list : Bool) :
    (Resolved.ofItems items list).movedTo ref =
      Resolved.ofItems (items.map (Resolved.movedTo ref)) list := by
  cases list with
  | true => exact congrArg Resolved.list (movedAllTo_eq_map items)
  | false => cases items <;> rfl

theorem entityAt_movedTo (value : Resolved) (place : Nat) :
    (value.movedTo ref).entityAt place = (value.entityAt place).map (Context.movedTo · ref) := by
  cases value with
  | null | scalar | node => rfl
  | list items =>
    rw [Resolved.movedTo, movedAllTo_eq_map]
    simp only [Resolved.entityAt, List.getElem?_map]
    rcases items[place]? with _ | _ | _ | _ | _ <;> rfl

theorem entity_movedTo (node : Node) :
    (context.movedTo ref).entity node = (context.entity node).movedTo ref := by
  rcases context with ⟨subject, graph, kind, url, handled⟩
  cases node <;> cases kind <;> rfl

/-- The nodes that a node is linked to by a predicate are among those that it leads to. -/
theorem mem_objectNodes_of_linked {node n : Node} {property : String}
    (linked : n ∈ (graph.values node property).filterMap fun t => t.object.node?) :
    n ∈ Graph.objectNodes (graph.about node) := by
  obtain ⟨t, ht, object⟩ := List.mem_filterMap.1 linked
  obtain ⟨mem, subject, -⟩ := Graph.mem_values.1 ht
  exact List.mem_filterMap.2 ⟨t, Graph.mem_about.2 ⟨mem, subject⟩, object⟩

theorem linkedNodes_congr (same : graph.SameAbout copy nodes) {node : Node} (h : node ∈ nodes)
    (property : String) (cls : Option String) :
    linkedNodes copy node property cls = linkedNodes graph node property cls := by
  unfold linkedNodes
  rw [same.values h]
  refine congrArg (Text.sortBy Node.text) (List.filter_congr fun n linked => ?_)
  have near : n ∈ nodes := same.closed node h n (mem_objectNodes_of_linked linked)
  cases cls with
  | none => rfl
  | some cls => exact same.isInstance near

/-- A field of a node that is the same in a copy reads the same there. -/
theorem readField_movedTo (same : graph.SameAbout copy nodes) {node : Node}
    (subject : context.subject = some node) (h : node ∈ nodes) :
    readField resolver field (context.movedTo ref) copy =
      (readField resolver field context graph).movedTo ref := by
  have subject' : (context.movedTo ref).subject = some node := subject
  have identifier : (context.movedTo ref).identifier? = context.identifier? := rfl
  unfold readField
  rw [subject', subject, identifier]
  split
  · cases context.identifier? <;> rfl
  · rename_i property n _ known
    obtain rfl : node = n := Option.some.inj known
    cases field.type.scalar? with
    | some scalar =>
      have scalars : scalarValues copy node property scalar =
          scalarValues graph node property scalar := by
        rw [scalarValues, same.values h, scalarValues]
      simp only [scalars, movedTo_ofItems, List.map_map]
      rfl
    | none =>
      simp only [linkedNodes_congr same h, movedTo_ofItems, List.map_map, entity_movedTo]
      rfl
  · rfl

/-- Scalars lead to no entity. -/
theorem entityAt_scalars (values : List Json) (list : Bool) (place : Nat) :
    (Resolved.ofItems (values.map .scalar) list).entityAt place = none := by
  cases list with
  | true =>
    simp only [Resolved.ofItems, Resolved.entityAt, List.getElem?_map, if_true]
    cases values[place]? <;> rfl
  | false => cases values <;> rfl

/-- Entities lead to one of them. -/
theorem mem_of_entityAt {α : Type} {items : List α} {entity : α → Context} {list : Bool}
    {place : Nat}
    (led : (Resolved.ofItems (items.map fun a => .node (entity a)) list).entityAt place =
      some next) :
    ∃ a ∈ items, entity a = next := by
  cases list with
  | true =>
    simp only [Resolved.ofItems, Resolved.entityAt, List.getElem?_map, if_true] at led
    cases at_place : items[place]? with
    | none => simp [at_place] at led
    | some a =>
      refine ⟨a, List.mem_of_getElem? at_place, ?_⟩
      simpa [at_place] using led
  | false =>
    cases items with
    | nil => cases led
    | cons a rest => exact ⟨a, List.mem_cons_self, Option.some.inj led⟩

/-- A field leads to an entity if it stands for a relation, and then to one of the linked entities. -/
theorem exists_linked_of_entityAt {place : Nat}
    (led : (readField resolver field context graph).entityAt place = some next) :
    ∃ node property, context.subject = some node ∧ field.directive = some (.property property) ∧
      ∃ n ∈ linkedNodes graph node property (resolver.definition.classOf? field.type.name),
        next = context.entity n := by
  unfold readField at led
  split at led
  · cases given : context.identifier? <;> simp [given, Resolved.entityAt] at led
  · rename_i property node stands subject
    cases scalar : field.type.scalar? with
    | some scalar => simp [scalar, entityAt_scalars] at led
    | none =>
      simp only [scalar] at led
      obtain ⟨n, linked, same⟩ := mem_of_entityAt led
      exact ⟨node, property, subject, stands, n, linked, same.symm⟩
  · cases led

/-- Where the field of a node leads to, the copy is the same, too. -/
theorem subject_of_entityAt (same : graph.SameAbout copy nodes) {node : Node} {place : Nat}
    (subject : context.subject = some node) (h : node ∈ nodes)
    (led : (readField resolver field context graph).entityAt place = some next) :
    next.graph = context.graph ∧ ∃ n ∈ nodes, next.subject = some n := by
  obtain ⟨other, property, subject', -, n, linked, rfl⟩ := exists_linked_of_entityAt led
  obtain rfl := Option.some.inj (subject.symm.trans subject')
  have linked := (List.mem_filter.1 (Text.mem_sortBy.1 linked)).1
  have near : n ∈ nodes := same.closed node h n (mem_objectNodes_of_linked linked)
  exact ⟨context.graph_entity n, n, near, context.subject_entity n⟩

/-- A path reads the same from a node and from the node moved to a copy. -/
theorem readPath_movedTo (same : (world.graph context.graph).SameAbout (after.graph ref) nodes)
    {steps : List PathStep} (reads : ∀ step ∈ steps, Reads step.field) {node : Node}
    (subject : context.subject = some node) (h : node ∈ nodes) :
    ∃ shown, (readPath resolver context steps).Returns client world shown world ∧
      (readPath resolver (context.movedTo ref) steps).Returns client after shown after := by
  induction steps generalizing context node with
  | nil => exact ⟨[], returns_pure.2 ⟨rfl, rfl⟩, returns_pure.2 ⟨rfl, rfl⟩⟩
  | cons step rest ih =>
    have reads_step : Reads step.field := reads step List.mem_cons_self
    have reads_rest : ∀ s ∈ rest, Reads s.field := fun s hs => reads s (List.mem_cons_of_mem _ hs)
    let value := readField resolver step.field context (world.graph context.graph)
    have first : (resolver.resolve (step.requestFrom context)).Returns client world value world :=
      returns_resolve_of_reads reads_step rfl
    have second : (resolver.resolve (step.requestFrom (context.movedTo ref))).Returns client after
        (value.movedTo ref) after := by
      rw [← readField_movedTo same subject h]
      exact returns_resolve_of_reads reads_step rfl
    have there : (value.movedTo ref).entityAt step.place =
        (value.entityAt step.place).map (Context.movedTo · ref) :=
      entityAt_movedTo value step.place
    rw [readPath, readPath]
    simp only [returns_bind_of_returns first, returns_bind_of_returns second, there,
      shown_movedTo]
    cases led : value.entityAt step.place with
    | none => exact ⟨[value.shown], returns_pure.2 ⟨rfl, rfl⟩, returns_pure.2 ⟨rfl, rfl⟩⟩
    | some next =>
      obtain ⟨graph, n, hn, subject⟩ := subject_of_entityAt same subject h led
      rw [← graph] at same
      obtain ⟨shown, original, moved⟩ := ih same reads_rest subject hn
      refine ⟨value.shown :: shown, ?_, ?_⟩
      · exact (returns_bind_of_returns original).2 (returns_pure.2 ⟨rfl, rfl⟩)
      · exact (returns_bind_of_returns moved).2 (returns_pure.2 ⟨rfl, rfl⟩)

/-! ### Removing -/

/-- An entity that is detached is answered with a copy of the triples about it and those that can be
reached from it. -/
theorem graph_of_returns_detach {subject : String}
    (ran : (detach context subject graph).Returns client world result after) :
    ∃ ref, result = .node (context.movedTo ref) ∧
      after.graph ref = Graph.ofList (graph.about (.iri subject) ++ graph.reachable (.iri subject)) := by
  obtain ⟨_, between, -, ran⟩ := returns_bind.1 ran
  obtain ⟨ref, made, created, ran⟩ := returns_bind.1 ran
  obtain ⟨rfl, rfl⟩ := returns_pure.1 ran
  obtain ⟨rfl, rfl⟩ := returns_newGraph.1 created
  refine ⟨between.graphs.size, rfl, ?_⟩
  rw [World.graph, Array.getD_eq_getD_getElem?, Array.getElem?_push_size, Option.getD_some]

/-- A removal is answered with the context of the entity, read from a graph of the triples about the
entity and those that can be reached from it. -/
theorem graph_of_returns_delete (parent : request.parent = some context)
    (ran : (delete request).Returns client world result after) :
    ∃ subject ref, context.subject = some (.iri subject) ∧
      result = .node (context.movedTo ref) ∧
      after.graph ref = Graph.ofList ((world.graph context.graph).about (.iri subject) ++
        (world.graph context.graph).reachable (.iri subject)) := by
  rw [delete_eq, returns_lift_bind_of_eq (Request.context_of_parent parent)] at ran
  obtain ⟨subject, named, ran⟩ := returns_lift_bind.1 ran
  have named : context.subject = some (.iri subject) := by
    unfold namedSubject at named
    split at named
    · rename_i text isText
      rw [isText, Except.ok.inj named]
    · cases named
    · cases named
  obtain ⟨_, between, -, ran⟩ := returns_bind.1 (returns_readGraph_bind.1 ran)
  obtain ⟨ref, answer, copied⟩ := graph_of_returns_detach ran
  exact ⟨subject, ref, named, answer, copied⟩

/-- The answer of a removal reads like the entity did: any path of fields that are read from
contexts gives in it what it gave before, and reading changes nothing. -/
theorem deleted_reads_same (parent : request.parent = some context)
    (mutates : request.Mutates .delete)
    (ran : (resolver.resolve request).Returns client world result after) :
    ∃ removed, result = .node removed ∧
      ∀ steps : List PathStep, (∀ step ∈ steps, Reads step.field) →
        ∃ shown, (readPath resolver context steps).Returns client world shown world ∧
          (readPath resolver removed steps).Returns client after shown after := by
  rw [resolve_of_mutates mutates] at ran
  obtain ⟨subject, ref, named, answer, copied⟩ := graph_of_returns_delete parent ran
  obtain ⟨nodes, entity, same⟩ :=
    (world.graph context.graph).sameAbout_reachable (.iri subject)
  rw [← copied] at same
  exact ⟨context.movedTo ref, answer, fun steps reads => readPath_movedTo same reads named entity⟩

end Removals

open AddressBook

/-- A path around the contacts who know each other, which ends at an address. -/
def around : List PathStep :=
  let step (name : String) : PathStep :=
    { owner := (resolver.definition.object? "Contact").getD default
      field := (field "Contact" name [] none).field
      arguments := []
      place := 0 }
  [step "knows", step "knows", step "email"]

/-- A path around the contacts is read to its end from a contact who was removed, as it was before. -/
theorem deleted_reads_same_removal :
    ∃ removed after shown,
      (resolver.resolve removal).Returns Store.client stored (.node removed) after ∧
      (readPath resolver ada around).Returns Store.client stored shown stored ∧
      (readPath resolver removed around).Returns Store.client after shown after ∧
      shown.length = 3 := by
  obtain ⟨removed, after, ran⟩ : ∃ removed after,
      (resolver.resolve removal).Returns Store.client stored (.node removed) after := ⟨_, _, rfl⟩
  have mutates : removal.Mutates .delete := ⟨rfl, rfl, by decide, rfl⟩
  have reads : ∀ step ∈ around, Reads step.field := by decide
  obtain ⟨_, answer, same⟩ := deleted_reads_same rfl mutates ran
  obtain rfl := Resolved.node.inj answer
  obtain ⟨shown, original, moved⟩ := same around reads
  have read : ((readPath resolver ada around).runIn Store.client stored).1.toOption.map
      List.length = some 3 := by
    decide +kernel
  rw [show (readPath resolver ada around).runIn Store.client stored = (.ok shown, stored) from
    original] at read
  exact ⟨removed, after, shown, ran, original, moved, Option.some.inj read⟩

end LinkedShapes.Resolution
