import LinkedShapes.Proofs.Collection
import LinkedShapes.Proofs.Minting

/-!
# Creating in a container

An entity that is created in a container is put in a new document, by one call, at a URL where there
was nothing. If the document is directly below the container, the collection of the class lists the
entity from then on. This is so for every document that is named after a slug or at random. The
document of a given identifier is taken as it is: where it lies deeper, or elsewhere, the entity is
made, but its collection does not know of it.

## Main statements

* `returns_create`: the one change that a creation in a container makes.
* `World.Created.graphOf`: the document that was made is read with what was put.
* `World.Created.lists`: the document that was made is listed and read by its collection.
* `create_is_child_iff`: when the document of a new entity is directly below the container, and that
  the entity is listed then.
* `create_outside_drafting`: a creation that is answered and puts its document elsewhere.
-/

namespace LinkedShapes.Resolution

open Rdf Ldp Schema Attempt

/-- A document was made where there was nothing, by one change; a graph with the same triples was
made for the answer. -/
structure World.Created (world after : World Store) (document : String) (graph : Graph) :
    Prop where
  /-- There was no container. -/
  noContainer : world.resources.isContainer document = false
  /-- There was no document. -/
  noDocument : world.resources.document? document = none
  /-- The document was added. -/
  documents : after.resources.documents =
    Store.putDocument document graph world.resources.documents
  /-- The containers are as they were. -/
  containers : after.resources.containers = world.resources.containers
  /-- Putting the document is the only change. -/
  writes : after.resources.writes =
    world.resources.writes ++ [⟨document, .write (.put graph)⟩]
  /-- The graph was made. -/
  graphs : after.graphs = world.graphs.push graph

/-- What the fields of a new entity are resolved from. -/
def Context.created (document subject : String) (ref : GraphRef) : Context where
  subject := some (.iri subject)
  graph := ref
  kind := .container
  url := document
  handled := true

section Creations

variable {world after : World Store} {resolver : Resolver} {request : Request}
  {cls target document : String} {graph : Graph} {result : Resolved}

theorem returns_ensureAbsent {σ : Type} {client : Client σ} {world after : World σ} {url : String}
    (ran : (ensureAbsent url).Returns client world () after) :
    (∃ failure, (client.kind url world.resources).1 = .error failure) ∧
      after = { world with resources := (client.kind url world.resources).2 } := by
  obtain ⟨answer, _, asked, ran⟩ := returns_bind.1 ran
  obtain ⟨answered, rfl⟩ := returns_askKind.1 asked
  cases answer with
  | ok kind => exact absurd ran not_returns_throw
  | error failure =>
    dsimp only at ran
    split at ran
    · obtain ⟨-, rfl⟩ := returns_pure.1 ran
      exact ⟨⟨failure, answered⟩, rfl⟩
    · exact absurd ran not_returns_throw

/-- A creation in a container puts one new document, which states the class of the entity, and is
answered with the entity, whose fields are read from the triples of the document. -/
theorem returns_create (ofClass : resolver.classOf request.field.type.name = .ok cls)
    (kept : resolver.target cls = .ok target)
    (container : world.resources.isContainer target = true)
    (ran : (create resolver request).Returns Store.client world result after) :
    ∃ type values document subject stated minting minted,
      inputObject resolver request = .ok (type, values) ∧
      (mintDocument target values).Returns Store.client minting (document, subject) minted ∧
      statedTriples subject type values = .ok stated ∧
      world.Created after document (Graph.ofList (Graph.typing (.iri subject) cls :: stated)) ∧
      result = .node (.created document subject world.graphs.size) := by
  have ran := (returns_lift_bind_of_eq ofClass).1 ran
  have ran := (returns_lift_bind_of_eq kept).1 ran
  obtain ⟨⟨type, values⟩, input, ran⟩ := returns_lift_bind.1 ran
  have ran := (returns_kind_bind_of_isContainer container).1 ran
  obtain ⟨⟨document, subject⟩, minted, mint, ran⟩ := returns_bind.1 ran
  obtain ⟨_, absent, asked, ran⟩ := returns_bind.1 ran
  obtain ⟨_, _, named, ran⟩ := returns_bind.1 ran
  obtain ⟨rfl, rfl⟩ := returns_pure.1 named
  obtain ⟨stated, states, ran⟩ := returns_lift_bind.1 ran
  obtain ⟨_, put, sent, ran⟩ := returns_bind.1 ran
  obtain ⟨ref, made, copied, ran⟩ := returns_bind.1 ran
  obtain ⟨rfl, rfl⟩ := returns_pure.1 ran
  obtain ⟨rfl, rfl⟩ := returns_newGraph.1 copied
  obtain ⟨-, rfl⟩ := returns_write.1 sent
  obtain ⟨⟨failure, nothing⟩, rfl⟩ := returns_ensureAbsent asked
  have observes : (mintDocument target values).Observes false := observes_mintDocument target values
  have resources : minted.resources = world.resources.note target .kind :=
    observes.resources_eq mint
  have graphs := observes.graphs_eq mint
  dsimp only at graphs
  have nothing : (minted.resources.kindOf document) = .error failure := nothing
  rw [resources] at nothing
  obtain ⟨noContainer, noDocument⟩ := Store.absent_of_kindOf nothing
  refine ⟨type, values, document, subject, stated, _, minted, input, mint, states, ?_, ?_⟩
  · constructor
    case noContainer => exact noContainer
    case noDocument => exact noDocument
    case documents =>
      change Store.putDocument document _ minted.resources.documents = _
      rw [resources]
      rfl
    case containers =>
      change minted.resources.containers = _
      rw [resources]
      rfl
    case writes =>
      change List.filter Call.isWrite (minted.resources.calls ++ [⟨document, .kind⟩] ++
        [⟨document, .write (.put _)⟩]) = _
      rw [resources]
      simp [Store.writes, Store.note, Call.isWrite]
    case graphs =>
      change minted.graphs.push _ = _
      rw [graphs]
  · change Resolved.node (.created document subject minted.graphs.size) = _
    rw [graphs]

/-- The document that was made is read with what was put. -/
theorem World.Created.graphOf (created : world.Created after document graph) :
    after.resources.graphOf document = .ok graph := by
  have noContainer : after.resources.isContainer document = false := by
    rw [Store.isContainer, created.containers]
    exact created.noContainer
  have read : after.resources.document? document = some graph := by
    rw [Store.document?, created.documents, Store.find?_putDocument, if_pos rfl]
  exact Store.graphOf_of_document noContainer read

/-- A document that was made directly below a container is listed with it, and holds what was put. -/
theorem World.Created.lists (created : world.Created after document graph)
    (child : isDirectChild target document = true)
    (isDocument : document.toList.getLast? ≠ some '/') {listing : Graph}
    (listed : after.resources.containerGraph target = .ok listing) :
    document ∈ listedDocuments listing ∧ after.resources.graphOf document = .ok graph := by
  have put : document ∈ after.resources.documentUrls := by
    rw [Store.documentUrls, created.documents]
    exact Store.mem_map_putDocument.2 (Or.inl rfl)
  have inside : document ∈ after.resources.children target :=
    Store.mem_children.2 ⟨Or.inl put, child⟩
  exact ⟨mem_listedDocuments_of_mem_children listed inside isDocument, created.graphOf⟩

end Creations

/-- Whether a list of entities has one of a subject. -/
def Resolved.listsSubject (result : Resolved) (subject : Node) : Bool :=
  match result with
  | .list items =>
    items.any fun
      | .node context => context.subject = some subject
      | _ => false
  | _ => false

theorem listsSubject_of_mem {contexts : List Context} {context : Context} {subject : Node}
    (h : context ∈ contexts) (found : context.subject = some subject) :
    (Resolved.list (contexts.map .node)).listsSubject subject = true :=
  List.any_eq_true.2 ⟨.node context, List.mem_map.2 ⟨context, h, rfl⟩, by simpa using found⟩

/-- A creation in a container puts one document, which is directly below the container exactly if no
identifier is given or the document of the given identifier is. If it is, the collection of the class
lists the new entity, whenever it is answered right afterwards. -/
theorem create_is_child_iff {world after : World Store} {resolver : Resolver} {request : Request}
    {cls target : String} {result : Resolved} (mutates : request.Mutates .create)
    (ofClass : resolver.classOf request.field.type.name = .ok cls)
    (kept : resolver.target cls = .ok target)
    (container : world.resources.isContainer target = true)
    (ran : (resolver.resolve request).Returns Store.client world result after) :
    ∃ type values document subject graph,
      inputObject resolver request = .ok (type, values) ∧
      result = .node (.created document subject world.graphs.size) ∧
      world.Created after document graph ∧
      (isDirectChild target document = true ↔
        (givenDocument? target values).all (isDirectChild target) = true) ∧
      (isDirectChild target document = true →
        ∀ (collection : Request) (answer : Resolved) (last : World Store),
          collection.Collects request.field.type.name →
          (resolver.resolve collection).Returns Store.client after answer last →
          answer.listsSubject (.iri subject) = true) := by
  rw [resolve_of_mutates mutates] at ran
  obtain ⟨type, values, document, subject, stated, minting, minted, input, mint, -, created,
    answer⟩ := returns_create ofClass kept container ran
  obtain ⟨isDocument, child_iff⟩ := minted_of_returns_mintDocument mint
  refine ⟨type, values, document, subject, _, input, answer, created, child_iff, ?_⟩
  intro child collection answer last collects ran
  obtain ⟨contexts, found, rfl⟩ := (returns_collection_iff collects ofClass kept).1 ran
  have container : after.resources.isContainer target = true := by
    rw [Store.isContainer, created.containers]
    exact container
  obtain ⟨listing, union, ref, listed, members, rfl⟩ := returns_lookUpCollection container found
  obtain ⟨inListing, holds⟩ := created.lists child isDocument listed
  have typed : Graph.typing (.iri subject) cls ∈ union := by
    refine (members _).2 ⟨document, inListing, _, holds, ?_⟩
    exact Graph.mem_ofList.2 List.mem_cons_self
  have instance_mem : .iri subject ∈ sortedInstances union cls :=
    Text.mem_sortBy.2 (Graph.mem_instances.2 typed)
  exact listsSubject_of_mem (List.mem_map.2 ⟨_, instance_mem, rfl⟩) (Context.subject_entity _ _)

open AddressBook

/-- The container of the contacts, with nothing in it. -/
def vacant : World Store where
  resources := Store.empty.addContainer AddressBook.container
  names := { draw := fun _ => 0 }

/-- The query for all contacts. -/
def contacts : Request := field queryType "contactCollection" [] none

/-- The creation of a contact who is named after a slug. -/
def joining : Request := creation [(slugField, .string "joe")]

/-- The creation of a contact whose identifier lies deeper than the container. -/
def drafting : Request := creation [(identifierField, .string "drafts/joe#joe")]

/-- A contact who is named after a slug is in the container, and listed. -/
theorem create_is_child_iff_joining :
    ∃ answer last,
      isDirectChild AddressBook.container "http://example.org/contacts/joe" = true ∧
      (resolver.resolve contacts).Returns Store.client (resolver.settle Store.client vacant joining)
        answer last ∧
      answer.listsSubject (.iri "http://example.org/contacts/joe#joe") = true := by
  have mutates : joining.Mutates .create := ⟨rfl, rfl, by decide, rfl⟩
  have collects : contacts.Collects joining.field.type.name :=
    ⟨by decide, rfl, rfl, rfl, rfl, rfl⟩
  have ran : (resolver.resolve joining).Returns Store.client vacant
      (.node (.created "http://example.org/contacts/joe" "http://example.org/contacts/joe#joe" 0))
      (resolver.settle Store.client vacant joining) := rfl
  obtain ⟨type, values, document, subject, graph, input, named, created, child_iff, lists⟩ :=
    create_is_child_iff mutates (show resolver.classOf _ = .ok person from rfl)
      (show resolver.target person = .ok AddressBook.container from rfl) rfl ran
  obtain ⟨rfl, -, rfl⟩ : "http://example.org/contacts/joe#joe" = subject ∧
      0 = vacant.graphs.size ∧ "http://example.org/contacts/joe" = document := by
    simpa [Context.created] using named
  have members : values = [(slugField, .string "joe")] :=
    (congrArg Prod.snd (Except.ok.inj input)).symm
  have child : isDirectChild AddressBook.container "http://example.org/contacts/joe" = true :=
    child_iff.2 (by rw [members]; rfl)
  have answered : ((resolver.resolve contacts).runIn Store.client
      (resolver.settle Store.client vacant joining)).1.isOk = true := by
    decide +kernel
  rcases asked : (resolver.resolve contacts).runIn Store.client
      (resolver.settle Store.client vacant joining) with ⟨cause | answer, last⟩
  · rw [asked] at answered
    cases answered
  · exact ⟨answer, last, child, asked, lists child contacts answer last collects asked⟩

/-- A contact whose identifier lies deeper is made, but is not in the container, and not listed. -/
theorem create_outside_drafting :
    ∃ answer last,
      (resolver.resolve drafting).Returns Store.client vacant
        (.node (.created "http://example.org/contacts/drafts/joe"
          "http://example.org/contacts/drafts/joe#joe" 0))
        (resolver.settle Store.client vacant drafting) ∧
      (resolver.settle Store.client vacant drafting).resources.writes.map Call.url =
        ["http://example.org/contacts/drafts/joe"] ∧
      isDirectChild AddressBook.container "http://example.org/contacts/drafts/joe" = false ∧
      (resolver.resolve contacts).Returns Store.client
        (resolver.settle Store.client vacant drafting) answer last ∧
      answer.listsSubject (.iri "http://example.org/contacts/drafts/joe#joe") = false := by
  have unlisted : ((resolver.resolve contacts).runIn Store.client
      (resolver.settle Store.client vacant drafting)).1.toOption.map
        (·.listsSubject (.iri "http://example.org/contacts/drafts/joe#joe")) = some false := by
    decide +kernel
  rcases asked : (resolver.resolve contacts).runIn Store.client
      (resolver.settle Store.client vacant drafting) with ⟨cause | answer, last⟩
  · rw [asked] at unlisted
    cases unlisted
  · rw [asked] at unlisted
    exact ⟨answer, last, rfl, rfl, by decide, asked, Option.some.inj unlisted⟩

end LinkedShapes.Resolution
