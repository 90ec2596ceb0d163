import LinkedShapes.Proofs.WriteThrough

/-!
# Updating an entity

An update replaces values in the graph of its entity. A property that the input names has afterwards the
literals that the members for it give, all of them together and none where they are null; a property
that the input does not name keeps its values, and so do all other entities. The members may come in any
order, and an update that is made again changes nothing.

## Main statements

* `Graph.Replaced`: what the graph holds after an update.
* `Request.Updates.replaced`: what an update that is answered leaves behind.
* `Request.Updates.answered_of_reorders`: it is also answered with the members in another order.
* `update_replaces`: an update replaces what it names and only that, in any order and once for all.
-/

namespace LinkedShapes.Rdf

open Schema

/-- The values of the properties that an input names were replaced with the literals that it gives, and
nothing else was changed. -/
structure Graph.Replaced (before after : Graph) (subject : String) (type : InputType)
    (values : List (String × Json)) : Prop where
  /-- A property that is named has the literals that are given to it. -/
  named : ∀ property, type.Names values property → ∀ object,
    (⟨.iri subject, property, object⟩ : Triple) ∈ after ↔
      ∃ literal, type.Gives values property literal ∧ object = .literal literal
  /-- Any other triple is there if it was there before. -/
  other : ∀ t : Triple, t.subject ≠ .iri subject ∨ ¬ type.Names values t.predicate →
    (t ∈ after ↔ t ∈ before)

section Replaced

variable {before after start last : Graph} {subject : String} {type : InputType}
  {values others : List (String × Json)}

/-- Graphs that were the same but for the replaced values are the same afterwards, also where the members
of the input were in another order. -/
theorem Graph.Replaced.mem_iff (first : before.Replaced after subject type values)
    (second : start.Replaced last subject type others) (perm : values.Perm others)
    (same : ∀ t : Triple, t.subject ≠ .iri subject ∨ ¬ type.Names values t.predicate →
      (t ∈ start ↔ t ∈ before)) (t : Triple) : t ∈ last ↔ t ∈ after := by
  by_cases kept : t.subject ≠ .iri subject ∨ ¬ type.Names values t.predicate
  · have kept' : t.subject ≠ .iri subject ∨ ¬ type.Names others t.predicate := by
      rwa [← InputType.names_congr perm]
    rw [second.other t kept', first.other t kept, same t kept]
  · obtain ⟨about, named⟩ : t.subject = .iri subject ∧ type.Names values t.predicate := by
      simpa [not_or] using kept
    obtain ⟨_, property, object⟩ := t
    subst about
    rw [first.named property named, second.named property ((InputType.names_congr perm).1 named)]
    simp only [InputType.gives_congr perm]

end Replaced

end LinkedShapes.Rdf

namespace LinkedShapes.Ldp

/-- Two patches delete the same triples and insert the same ones. -/
structure Patch.Agrees (patch other : Patch) : Prop where
  /-- What is deleted. -/
  deletes : ∀ t, t ∈ patch.deletes ↔ t ∈ other.deletes
  /-- What is inserted. -/
  inserts : ∀ t, t ∈ patch.inserts ↔ t ∈ other.inserts

theorem Patch.Agrees.isEmpty_eq {patch other : Patch} (agree : patch.Agrees other) :
    patch.isEmpty = other.isEmpty := by
  rw [Bool.eq_iff_iff, isEmpty_iff, isEmpty_iff]
  simp only [List.eq_nil_iff_forall_not_mem, agree.deletes, agree.inserts]

/-- Whether the client accepts a patch does not depend on the order of its triples. -/
def Client.IgnoresOrder {σ : Type} (client : Client σ) : Prop :=
  ∀ url state (patch other : Patch), patch.Agrees other →
    (client.write url (.patch patch) state).1 = .ok () →
    (client.write url (.patch other) state).1 = .ok ()

/-- A store accepts a patch if it has all the triples that are deleted, in whatever order. -/
theorem Store.client_ignoresOrder : Store.client.IgnoresOrder := by
  intro url store patch other agree accepted
  refine Store.patch_eq_ok_iff.2 fun t deleted => ?_
  exact Store.patch_eq_ok_iff.1 accepted t ((agree.deletes t).2 deleted)

end LinkedShapes.Ldp

namespace LinkedShapes.Resolution

open Rdf Ldp Schema Attempt

/-- The field updates the entity of a context, which has an IRI, and no change was made on the way to
it. -/
structure Request.Updates (request : Request) (context : Context) (subject : String) : Prop where
  /-- The field asks for an update. -/
  mutates : request.Mutates .update
  /-- The field belongs to the entity of the context. -/
  parent : request.parent = some context
  /-- The entity has the IRI. -/
  named : context.subject = some (.iri subject)

/-- A request is another one with the members of its input in another order. -/
structure Request.Reorders (other request : Request) : Prop where
  /-- It is for a field of the same type. -/
  owner : other.owner = request.owner
  /-- It is for the same field. -/
  field : other.field = request.field
  /-- It is for a field of the same entity. -/
  parent : other.parent = request.parent
  /-- The input has the same members. -/
  input : ∃ values others, request.argument? inputArgument = some (.object values) ∧
    other.argument? inputArgument = some (.object others) ∧ values.Perm others

section Requests

variable {σ : Type} {client : Client σ} {world after : World σ} {resolver : Resolver}
  {request other : Request} {context : Context} {subject : String} {result : Resolved}
  {type : InputType} {values : List (String × Json)}

theorem Request.Updates.of_reorders (updates : request.Updates context subject)
    (reorders : other.Reorders request) : other.Updates context subject where
  mutates := by
    constructor
    case mutation => rw [isMutation, reorders.owner]; exact updates.mutates.mutation
    case unhandled => rw [isHandled, reorders.parent]; exact updates.mutates.unhandled
    case entry => rw [reorders.field]; exact updates.mutates.entry
    case verb => rw [reorders.field]; exact updates.mutates.verb
  parent := by rw [reorders.parent, updates.parent]
  named := updates.named

/-- The input of a request is of the type of its argument, and has the members that are given. -/
theorem inputObject_eq_ok_iff :
    inputObject resolver request = .ok (type, values) ↔
      ∃ argument, request.field.argument? inputArgument = some argument ∧
        resolver.definition.input argument.type.name = .ok type ∧
        request.argument? inputArgument = some (.object values) := by
  unfold inputObject
  constructor
  · intro made
    split at made
    · cases made
    · rename_i argument declared
      split at made
      · cases made
      · rename_i found known
        split at made
        · rename_i members given
          cases made
          exact ⟨argument, declared, known, given⟩
        · cases made
  · rintro ⟨argument, declared, known, given⟩
    simp only [declared, known, given]

/-- The input of a reordered request is of the same type and has the same members. -/
theorem Request.Reorders.inputObject_eq (reorders : other.Reorders request)
    (input : inputObject resolver request = .ok (type, values)) :
    ∃ others, inputObject resolver other = .ok (type, others) ∧ values.Perm others := by
  obtain ⟨given, others, isGiven, isOther, perm⟩ := reorders.input
  obtain ⟨argument, declared, known, found⟩ := inputObject_eq_ok_iff.1 input
  obtain rfl := Json.object.inj (Option.some.inj (isGiven.symm.trans found))
  exact ⟨others, inputObject_eq_ok_iff.2 ⟨argument, reorders.field ▸ declared, known, isOther⟩, perm⟩

/-- An update reads the graph of its entity, makes one patch of all the members of its input, and applies
it. -/
theorem Request.Updates.returns_iff (updates : request.Updates context subject) :
    (resolver.resolve request).Returns client world result after ↔
      ∃ entity type values patch,
        resolver.definition.object request.field.type.name = .ok entity ∧
        inputObject resolver request = .ok (type, values) ∧
        updatePatch entity type subject (world.graph context.graph) values = .ok patch ∧
        (applyPatch context patch).Returns client world () after ∧
        result = .node context.afterMutation := by
  rw [resolve_of_mutates updates.mutates, performedBy, update,
    returns_lift_bind_of_eq (Request.context_of_parent updates.parent),
    returns_lift_bind_of_eq (namedSubject_of_subject updates.named)]
  simp only [returns_ofSchema_bind, returns_lift_bind, returns_readGraph_bind]
  constructor
  · rintro ⟨entity, isEntity, ⟨type, values⟩, input, patch, made, ran⟩
    obtain ⟨_, applied, rfl⟩ := returns_bind_pure.1 ran
    exact ⟨entity, type, values, patch, isEntity, input, made, applied, rfl⟩
  · rintro ⟨entity, type, values, patch, isEntity, input, made, applied, rfl⟩
    exact ⟨entity, isEntity, (type, values), input, patch, made,
      returns_bind_pure.2 ⟨(), applied, rfl⟩⟩

/-- An update that is answered replaced values in the graph of its entity, and changed no other graph. -/
theorem Request.Updates.replaced (updates : request.Updates context subject)
    (made : context.graph < world.graphs.size)
    (ran : (resolver.resolve request).Returns client world result after)
    (input : inputObject resolver request = .ok (type, values)) :
    (world.graph context.graph).Replaced (after.graph context.graph) subject type values ∧
      (∀ ref, ref ≠ context.graph → after.graph ref = world.graph ref) ∧
      after.graphs.size = world.graphs.size := by
  obtain ⟨entity, type', values', patch, -, input', patched, applied, -⟩ := updates.returns_iff.1 ran
  cases input.symm.trans input'
  obtain ⟨graph, others, size⟩ := graphs_of_returns_applyPatch made applied
  refine ⟨?_, others, size⟩
  constructor
  case named =>
    intro property named object
    -- all the values that were there are deleted, so that only what is inserted is left
    rw [graph, mem_deletes_updatePatch patched, mem_inserts_updatePatch patched]
    constructor
    · rintro (⟨there, kept⟩ | ⟨_, literal, given, same⟩)
      · exact absurd ⟨there, rfl, named⟩ kept
      · cases same
        exact ⟨literal, given, rfl⟩
    · rintro ⟨literal, given, rfl⟩
      exact Or.inr ⟨property, literal, given, rfl⟩
  case other =>
    intro t unaffected
    have notDeleted : t ∉ patch.deletes := by
      rw [mem_deletes_updatePatch patched]
      rintro ⟨-, about, named⟩
      exact unaffected.elim (· about) (· named)
    have notInserted : t ∉ patch.inserts := by
      rw [mem_inserts_updatePatch patched]
      rintro ⟨property, literal, given, rfl⟩
      exact unaffected.elim (· rfl) (· given.names)
    simp [graph, notDeleted, notInserted]

/-- A client that ignores the order of triples accepts an update with the members of its input in another
order. -/
theorem Request.Updates.answered_of_reorders (updates : request.Updates context subject)
    (reorders : other.Reorders request) (ignores : client.IgnoresOrder)
    (ran : (resolver.resolve request).Returns client world result after) :
    ∃ last final, (resolver.resolve other).Returns client world last final := by
  obtain ⟨entity, type, values, patch, isEntity, input, made, applied, -⟩ := updates.returns_iff.1 ran
  obtain ⟨others, inputOther, perm⟩ := reorders.inputObject_eq input
  obtain ⟨patch', made'⟩ : ∃ patch',
      updatePatch entity type subject (world.graph context.graph) others = .ok patch' :=
    exists_updatePatch_iff.2 fun member h => exists_updatePatch_iff.1 ⟨patch, made⟩ member
      (perm.mem_iff.2 h)
  have agree : patch.Agrees patch' := by
    constructor
    · intro t
      rw [mem_deletes_updatePatch made, mem_deletes_updatePatch made', InputType.names_congr perm]
    · intro t
      simp only [mem_inserts_updatePatch made, mem_inserts_updatePatch made',
        InputType.gives_congr perm]
  obtain ⟨final, applied'⟩ : ∃ final, (applyPatch context patch').Returns client world () final := by
    simp only [returns_applyPatch, ← agree.isEmpty_eq] at applied ⊢
    split at applied
    · exact ⟨world, by simp [*]⟩
    · rename_i filled
      exact ⟨_, by rw [if_neg filled]; exact ⟨ignores _ _ _ _ agree applied.1, rfl⟩⟩
  exact ⟨_, final, (updates.of_reorders reorders).returns_iff.2
    ⟨entity, type, others, patch', reorders.field ▸ isEntity, inputOther, made', applied', rfl⟩⟩

/-- An update that is made once more changes nothing in the graph, whether it is answered or not. -/
theorem Request.Updates.settle_again (updates : request.Updates context subject)
    (made : context.graph < world.graphs.size)
    (ran : (resolver.resolve request).Returns client world result after) (t : Triple) :
    t ∈ (resolver.settle client after request).graph context.graph ↔
      t ∈ after.graph context.graph := by
  obtain ⟨entity, type, values, patch, -, input, -⟩ := updates.returns_iff.1 ran
  obtain ⟨first, -, size⟩ := updates.replaced made ran input
  unfold Resolver.settle
  rcases again : (resolver.resolve request).runIn client after with ⟨cause | last, final⟩
  · have steady : client.Steady fun _ => () :=
      ⟨fun _ _ => rfl, fun _ _ => rfl, fun _ _ _ _ _ => rfl⟩
    obtain ⟨-, -, graphs⟩ := Program.FailsUnchanged.run_error
      (resolve_failsUnchanged resolver request) steady again
    rw [World.graph, graphs, World.graph]
  · have second := (updates.replaced (size ▸ made) again input).1
    exact first.mem_iff second (.refl _) first.other t

end Requests

/-- An update that is answered gives each property that its input names the literals that the members for
it give, in the place of all others, and leaves every other triple and every other graph as it was. The
graph is the same for the members in any order, and the update is answered in any order by a client that
does not look at the order of triples. The graph is not changed when the update is made again. -/
theorem update_replaces {σ : Type} (client : Client σ) (resolver : Resolver) {request : Request}
    {context : Context} {subject : String} {world after : World σ} {result : Resolved}
    (updates : request.Updates context subject) (made : context.graph < world.graphs.size)
    (ran : (resolver.resolve request).Returns client world result after) :
    ∃ type values, inputObject resolver request = .ok (type, values) ∧
      (world.graph context.graph).Replaced (after.graph context.graph) subject type values ∧
      (∀ ref, ref ≠ context.graph → after.graph ref = world.graph ref) ∧
      (∀ other : Request, other.Reorders request →
        (∀ last final, (resolver.resolve other).Returns client world last final →
          last = result ∧ ∀ t, t ∈ final.graph context.graph ↔ t ∈ after.graph context.graph) ∧
        (client.IgnoresOrder →
          ∃ last final, (resolver.resolve other).Returns client world last final)) ∧
      ∀ t, t ∈ (resolver.settle client after request).graph context.graph ↔
        t ∈ after.graph context.graph := by
  obtain ⟨entity, type, values, patch, -, input, -, -, same⟩ := updates.returns_iff.1 ran
  obtain ⟨replaced, others, -⟩ := updates.replaced made ran input
  refine ⟨type, values, input, replaced, others, fun other reorders => ⟨?_, ?_⟩,
    updates.settle_again made ran⟩
  · intro last final ranOther
    have updatesOther := updates.of_reorders reorders
    obtain ⟨others, inputOther, perm⟩ := reorders.inputObject_eq input
    obtain ⟨_, _, _, _, -, -, -, -, same'⟩ := updatesOther.returns_iff.1 ranOther
    have replacedOther := (updatesOther.replaced made ranOther inputOther).1
    exact ⟨same'.trans same.symm, replaced.mem_iff replacedOther perm fun _ _ => Iff.rfl⟩
  · intro ignores
    exact updates.answered_of_reorders reorders ignores ran

namespace AddressBook

/-- The schema of contacts who also have telephones. -/
def withTelephones : Resolver :=
  let telephone := { name := "telephone", path := "http://schema.org/telephone",
                     kind := .scalar .string Xsd.string, minCount := none, maxCount := none }
  let shape := { shape with properties := shape.properties ++ [telephone] }
  { resolver with
    definition := (Definition.ofIndex { index with shapes := [shape], byClass := [(person, shape)] }
      ).toOption.getD default }

/-- An update of the contact with some members of the input. -/
def contactChange (members : List (String × Json)) : Request :=
  let owner := (withTelephones.definition.object? "ContactMutation").getD default
  { owner, field := (owner.field? "update").getD default,
    arguments := [(inputArgument, .object members)], parent := some ada }

/-- An update that adds an address, keeps the one that is there and removes all telephones. -/
def members : List (String × Json) :=
  [("email", .array [.string "ada@example.com", .null, .string "ada@example.org"]),
   ("telephone", .null)]

end AddressBook

open AddressBook

/-- The addresses and the telephones of a contact are replaced, also with an address that is there, and
they are the same when the telephones come first. -/
theorem update_replaces_contact :
    (∃ type values, inputObject withTelephones (contactChange members) = .ok (type, values) ∧
      (stored.graph ada.graph).Replaced
        ((withTelephones.settle Store.client stored (contactChange members)).graph ada.graph)
        "http://example.org/contacts/ada#ada" type values) ∧
    ∃ last final, (withTelephones.resolve (contactChange members.reverse)).Returns Store.client stored
      last final := by
  have updates : (contactChange members).Updates ada "http://example.org/contacts/ada#ada" :=
    ⟨⟨rfl, rfl, by decide, rfl⟩, rfl, rfl⟩
  have made : ada.graph < stored.graphs.size := Nat.zero_lt_one
  have ran : (withTelephones.resolve (contactChange members)).Returns Store.client stored
      (.node ada.afterMutation)
      (withTelephones.settle Store.client stored (contactChange members)) := rfl
  have reorders : (contactChange members.reverse).Reorders (contactChange members) :=
    ⟨rfl, rfl, rfl, members, members.reverse, rfl, rfl, (List.reverse_perm members).symm⟩
  obtain ⟨type, values, input, replaced, -, reordered, -⟩ :=
    update_replaces Store.client withTelephones updates made ran
  exact ⟨⟨type, values, input, replaced⟩,
    (reordered (contactChange members.reverse) reorders).2 Store.client_ignoresOrder⟩

end LinkedShapes.Resolution
