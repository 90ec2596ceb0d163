import LinkedShapes.Proofs.Creation
import LinkedShapes.Proofs.Instance
import LinkedShapes.Proofs.Stated

/-!
# A new entity is found as it was made

An entity that was created in a container is answered with the triples that it is made of: its class,
and the literals that the input gives. The identifier that it is answered with finds it again, in the
document that was made for it, with the same triples, whether the identifier was given or its name was
a slug or drawn.

## Main statements

* `create_then_find`: a new entity is looked up by its identifier as it was answered.
-/

namespace LinkedShapes.Resolution

open Rdf Ldp Schema Attempt

/-- An entity of an absolute IRI is known by the IRI, wherever it was found. -/
theorem identifierOf_iri_of_isAbsolute {iri : String} (isAbsolute : Iri.isAbsolute iri = true)
    (url : String) : identifierOf (.iri iri) url = iri :=
  absolute_of_isAbsolute isAbsolute url

/-- A creation in a container is answered with an entity that is made of its class and of the literals
that the input gives. The identifier of the entity finds it right afterwards, in the same document and
with the same triples. -/
theorem create_then_find {world after : World Store} {resolver : Resolver} {request : Request}
    {cls target : String} {result : Resolved} (mutates : request.Mutates .create)
    (ofClass : resolver.classOf request.field.type.name = .ok cls)
    (kept : resolver.target cls = .ok target)
    (container : world.resources.isContainer target = true)
    (ran : (resolver.resolve request).Returns Store.client world result after) :
    ∃ type values context identifier,
      inputObject resolver request = .ok (type, values) ∧
      result = .node context ∧
      context.subject = some (.iri identifier) ∧
      context.identifier? = some identifier ∧
      (∀ t, t ∈ after.graph context.graph ↔ t = Graph.typing (.iri identifier) cls ∨
        ∃ property literal, type.Gives values property literal ∧
          t = literalTriple identifier property literal) ∧
      ∀ query : Request, query.Finds request.field.type.name identifier →
        ∃ found last,
          (resolver.resolve query).Returns Store.client after (.node found) last ∧
          found.subject = context.subject ∧ found.url = context.url ∧
          found.kind = context.kind ∧ found.identifier? = context.identifier? ∧
          last.graph found.graph = last.graph context.graph ∧
          last.graph context.graph = after.graph context.graph := by
  rw [resolve_of_mutates mutates] at ran
  obtain ⟨type, values, document, subject, stated, _, _, input, mint, states, created, rfl⟩ :=
    returns_create ofClass kept container ran
  obtain ⟨isDocument, isAbsolute⟩ := documentUrl_of_returns_mintDocument mint
  have copied : after.graph world.graphs.size =
      Graph.ofList (Graph.typing (.iri subject) cls :: stated) :=
    World.graph_of_push created.graphs
  have known (url : String) : identifierOf (.iri subject) url = subject :=
    identifierOf_iri_of_isAbsolute isAbsolute url
  refine ⟨type, values, _, subject, input, rfl, rfl, congrArg some (known document), fun t => ?_,
    fun query finds => ?_⟩
  · change t ∈ after.graph world.graphs.size ↔ _
    rw [copied, Graph.mem_ofList, List.mem_cons, mem_statedTriples states]
  · have isContainer : after.resources.kindOf target = .ok .container := by
      refine Store.kindOf_of_isContainer ?_
      rw [Store.isContainer, created.containers]
      exact container
    have typed : Graph.typing (.iri subject) cls ∈
        Graph.ofList (Graph.typing (.iri subject) cls :: stated) :=
      Graph.mem_ofList.2 List.mem_cons_self
    have held : after.resources.graphOf (lookUpUrl .container target (.iri subject)) = .ok _ :=
      (congrArg after.resources.graphOf isDocument).trans created.graphOf
    obtain ⟨last, answered, pushed⟩ :=
      returns_instance_of_typing finds isAbsolute ofClass kept isContainer held typed
    have there : world.graphs.size < after.graphs.size := by
      rw [created.graphs, Array.size_push]
      exact Nat.lt_succ_self _
    have unchanged := World.graph_of_push_of_lt pushed there
    refine ⟨_, last, answered, rfl, isDocument, rfl, ?_, ?_, unchanged⟩
    · exact congrArg some ((known _).trans (known _).symm)
    · exact (World.graph_of_push pushed).trans (copied.symm.trans unchanged.symm)

open AddressBook

/-- The creation of a contact with an address that is given twice, and a null among the addresses. -/
def corresponding : Request :=
  creation [("email", .array [.string "joe@example.org", .null, .string "joe@example.org"]),
    (slugField, .string "joe")]

/-- The query for a contact. -/
def contactOf (identifier : String) : Request :=
  field queryType "contact" [(identifierField, .string identifier)] none

/-- The contact is found by its identifier in its document, with the one address. -/
theorem create_then_find_corresponding :
    ∃ found last,
      (resolver.resolve (contactOf "http://example.org/contacts/joe#joe")).Returns Store.client
        (resolver.settle Store.client vacant corresponding) (.node found) last ∧
      found.url = "http://example.org/contacts/joe" ∧
      last.graph found.graph = Graph.ofList
        [Graph.typing (.iri "http://example.org/contacts/joe#joe") person,
          literalTriple "http://example.org/contacts/joe#joe" "http://schema.org/email"
            (.simple "joe@example.org")] := by
  have mutates : corresponding.Mutates .create := ⟨rfl, rfl, by decide, rfl⟩
  have ran : (resolver.resolve corresponding).Returns Store.client vacant
      (.node (.created "http://example.org/contacts/joe" "http://example.org/contacts/joe#joe" 0))
      (resolver.settle Store.client vacant corresponding) := rfl
  obtain ⟨type, values, context, identifier, -, named, subject, -, -, finds⟩ :=
    create_then_find mutates (show resolver.classOf _ = .ok person from rfl)
      (show resolver.target person = .ok AddressBook.container from rfl) rfl ran
  obtain rfl := Resolved.node.inj named
  obtain rfl : "http://example.org/contacts/joe#joe" = identifier := by
    simpa [Context.created] using subject
  obtain ⟨found, last, answered, -, url, -, -, same, kept⟩ :=
    finds (contactOf "http://example.org/contacts/joe#joe") ⟨by decide, rfl, rfl, rfl⟩
  exact ⟨found, last, answered, url, same.trans (kept.trans rfl)⟩

end LinkedShapes.Resolution
