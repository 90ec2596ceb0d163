import LinkedShapes.Proofs.Agreement
import LinkedShapes.Proofs.TermText

/-!
# What is listed of a container

A container does not keep what is in it: it is read from the URLs of the store, those that are one
segment longer than its own. Where the containers end in a slash and the document of a container lists
nothing by itself, the documents among them are what is downloaded for a collection, so that the
instances of a class are those that one of these documents states, in the order of their texts.

## Main statements

* `isDirectChild_and_getLast?_iff`: the URLs of the documents directly below a container.
* `mem_listedDocuments_iff`: the documents that are downloaded for a container.
* `pairwise_sortedInstances`: the instances are strictly ordered.
* `Collected.listsBelow`: what the contexts of a collection are.
* `exists_returns_collection_iff`: when a collection is answered.
* `collection_lists_instances`: it is answered with each instance once.
-/

namespace LinkedShapes.Ldp

open Rdf

variable {container url : String}

theorem exists_append_of_isDirectChild (child : isDirectChild container url = true) :
    ∃ name, url = container ++ name := by
  have starts : container.toList.isPrefixOf url.toList = true := by
    unfold isDirectChild at child
    split at child
    · cases child
    · assumption
  obtain ⟨below, split⟩ := List.isPrefixOf_iff_prefix.1 starts
  refine ⟨String.ofList below, String.toList_inj.1 ?_⟩
  rw [String.toList_append, String.toList_ofList, split]

/-- What is directly below a container and has no slash at its end is named by one segment. -/
theorem isDirectChild_and_getLast?_iff :
    isDirectChild container url = true ∧ url.toList.getLast? ≠ some '/' ↔
      ∃ segment, segment ≠ "" ∧ '/' ∉ segment.toList ∧ url = container ++ segment := by
  constructor
  · rintro ⟨child, noSlash⟩
    obtain ⟨name, rfl⟩ := exists_append_of_isDirectChild child
    -- the URL ends as the name does
    have noSlash : name.toList.getLast? ≠ some '/' := by
      intro slash
      rw [String.toList_append, List.getLast?_append, slash] at noSlash
      exact noSlash rfl
    obtain ⟨filled, segment⟩ := (isDirectChild_append_iff noSlash).1 child
    exact ⟨name, filled, segment, rfl⟩
  · rintro ⟨segment, filled, oneSegment, rfl⟩
    have filled' : segment.toList ≠ [] := fun nothing => filled (String.toList_eq_nil_iff.1 nothing)
    refine ⟨isDirectChild_append filled oneSegment, ?_⟩
    rw [String.toList_append, List.getLast?_append_of_ne_nil _ filled']
    exact fun slash => oneSegment (List.mem_of_getLast? slash)

namespace Store

variable {store : Store}

theorem mem_documentUrls_iff :
    url ∈ store.documentUrls ↔ ∃ document, store.document? url = some document := by
  rw [documentUrls, document?, ← Option.isSome_iff_exists, Option.isSome_map, List.find?_isSome,
    List.mem_map]
  simp

/-- The store holds a document directly below a container: its URL is the container's with one segment
after it. -/
structure HoldsBelow (store : Store) (container url : String) (document : Graph) : Prop where
  /-- The segment after the container. -/
  segment : ∃ segment, segment ≠ "" ∧ '/' ∉ segment.toList ∧ url = container ++ segment
  /-- What the document has. -/
  held : store.document? url = some document

end Store

end LinkedShapes.Ldp

namespace LinkedShapes.Resolution

open Rdf Ldp Schema Attempt

/-! ### The documents below a container -/

section Below

variable {store : Store} {container url : String} {listing graph document : Graph}

/-- A document directly below a container is read as it is held, as containers end in a slash. -/
theorem graphOf_of_holdsBelow (slashed : Slashed store)
    (below : store.HoldsBelow container url document) : store.graphOf url = .ok document := by
  have noSlash := (isDirectChild_and_getLast?_iff.2 below.segment).2
  have noContainer : store.isContainer url = false :=
    decide_eq_false fun there => noSlash (slashed url there)
  exact Store.graphOf_of_document noContainer below.held

/-- What is downloaded for a container are the documents directly below it. -/
theorem mem_listedDocuments_iff (held : store.containerGraph container = .ok listing)
    (slashed : Slashed store)
    (silent : ∀ t ∈ store.documentOrEmpty container, t.predicate ≠ Ldp.contains) :
    url ∈ listedDocuments listing ↔ ∃ document, store.HoldsBelow container url document := by
  constructor
  · intro listed
    have noSlash := (mem_listedDocuments.1 listed).2
    obtain ⟨there, child⟩ :=
      Store.mem_children.1 (mem_children_of_mem_listedDocuments held silent listed)
    have noContainer : url ∉ store.containers := fun there => noSlash (slashed url there)
    obtain ⟨document, found⟩ := Store.mem_documentUrls_iff.1 (there.resolve_right noContainer)
    exact ⟨document, isDirectChild_and_getLast?_iff.1 ⟨child, noSlash⟩, found⟩
  · rintro ⟨document, below⟩
    obtain ⟨child, noSlash⟩ := isDirectChild_and_getLast?_iff.2 below.segment
    have there := Store.mem_documentUrls_iff.2 ⟨document, below.held⟩
    exact mem_listedDocuments_of_mem_children held (Store.mem_children.2 ⟨.inl there, child⟩) noSlash

/-- The union that is gathered has the triples of the documents directly below the container. -/
theorem Gathered.mem_iff (gathered : Gathered store container .container graph)
    (held : store.containerGraph container = .ok listing) (slashed : Slashed store)
    (silent : ∀ t ∈ store.documentOrEmpty container, t.predicate ≠ Ldp.contains) (t : Triple) :
    t ∈ graph ↔ ∃ url document, store.HoldsBelow container url document ∧ t ∈ document := by
  rw [gathered t]
  refine exists_congr fun url => ⟨?_, ?_⟩
  · rintro ⟨⟨again, held', listed⟩, found, there, mem⟩
    obtain rfl := Except.ok.inj (held.symm.trans held')
    obtain ⟨document, below⟩ := (mem_listedDocuments_iff held slashed silent).1 listed
    obtain rfl := Except.ok.inj (there.symm.trans (graphOf_of_holdsBelow slashed below))
    exact ⟨found, below, mem⟩
  · rintro ⟨document, below, mem⟩
    have listed := (mem_listedDocuments_iff held slashed silent).2 ⟨document, below⟩
    exact ⟨⟨listing, held, listed⟩, document, graphOf_of_holdsBelow slashed below, mem⟩

end Below

/-! ### The contexts of a collection -/

/-- The instances of a class are in strictly increasing order of their texts, which tell them apart. -/
theorem pairwise_sortedInstances (graph : Graph) (cls : String) :
    (sortedInstances graph cls).Pairwise (·.text < ·.text) := by
  have ordered : (sortedInstances graph cls).Pairwise (·.text ≤ ·.text) := Text.sorted_sortBy _ _
  have distinct : (sortedInstances graph cls).Nodup :=
    (Text.sortBy_perm _ _).nodup_iff.2 (graph.nodup_instances cls)
  refine (ordered.and distinct).imp fun {node other} ⟨le, different⟩ => ?_
  by_contra notBefore
  exact different (Node.text_injective (String.le_antisymm le (String.not_lt.1 notBefore)))

/-- Contexts that list the instances of a class that are stated in the documents directly below a
container. -/
structure ListsBelow (before after : World Store) (container cls : String)
    (contexts : List Context) : Prop where
  /-- Their subjects are the nodes that a document states the class of, in the order of their texts. -/
  subjects : ∃ nodes : List Node, contexts.map (·.subject) = nodes.map some ∧
    nodes.Pairwise (·.text < ·.text) ∧
    ∀ node, node ∈ nodes ↔ ∃ url document, before.resources.HoldsBelow container url document ∧
      Graph.typing node cls ∈ document
  /-- They share the union of the documents. -/
  shared : ∃ ref, (∀ listed ∈ contexts, listed.graph = ref) ∧
    ∀ t, t ∈ after.graph ref ↔
      ∃ url document, before.resources.HoldsBelow container url document ∧ t ∈ document
  /-- An IRI is that of an entity in its document. -/
  iris : ∀ listed ∈ contexts, ∀ iri, listed.subject = some (.iri iri) →
    listed.url = documentUrl iri
  /-- A blank node is in the container. -/
  blanks : ∀ listed ∈ contexts, ∀ label, listed.subject = some (.blank label) →
    listed.url = container

section Collections

variable {world after : World Store} {resolver : Resolver} {request : Request}
  {typeName cls target : String} {contexts : List Context} {listing graph : Graph}

/-- The contexts of a collection in a container list what is below it. -/
theorem Collected.listsBelow (collected : Collected world after cls target .container graph contexts)
    (held : world.resources.containerGraph target = .ok listing) (slashed : Slashed world.resources)
    (silent : ∀ t ∈ world.resources.documentOrEmpty target, t.predicate ≠ Ldp.contains) :
    ListsBelow world after target cls contexts := by
  have union := collected.gathered.mem_iff held slashed silent
  constructor
  case subjects =>
    refine ⟨sortedInstances graph cls, ?_, pairwise_sortedInstances graph cls, fun node => ?_⟩
    · rw [collected.contexts, List.map_map]
      exact List.map_congr_left fun node _ => Context.subject_entity _ node
    · exact mem_sortedInstances.trans (union _)
  case shared =>
    refine ⟨world.graphs.size, fun listed mem => ?_, fun t => ?_⟩
    · rw [collected.contexts] at mem
      obtain ⟨node, -, rfl⟩ := List.mem_map.1 mem
      exact Context.graph_entity _ node
    · rw [World.graph_of_push collected.graphs]
      exact union t
  case iris =>
    intro listed mem iri subject
    rw [((collected.mem_iff subject).1 mem).2]
    rfl
  case blanks =>
    intro listed mem label subject
    rw [collected.contexts] at mem
    obtain ⟨node, -, rfl⟩ := List.mem_map.1 mem
    rw [Context.subject_entity, Option.some.injEq] at subject
    rw [subject]
    rfl

/-- A collection in a container is answered if and only if the URL of the container and those of what
is below it are valid. -/
theorem exists_returns_collection_iff (collects : request.Collects typeName)
    (ofClass : resolver.classOf typeName = .ok cls) (kept : resolver.target cls = .ok target)
    (isContainer : world.resources.isContainer target = true) (slashed : Slashed world.resources)
    (silent : ∀ t ∈ world.resources.documentOrEmpty target, t.predicate ≠ Ldp.contains) :
    (∃ answer after, (resolver.resolve request).Returns Store.client world answer after) ↔
      ∀ url ∈ target :: world.resources.children target, Iri.isAbsolute url = true := by
  rw [← Store.exists_containerGraph_iff]
  constructor
  · rintro ⟨answer, after, ran⟩
    obtain ⟨contexts, found, -⟩ := (returns_collection_iff collects ofClass kept).1 ran
    obtain ⟨listing, -, -, held, -⟩ := returns_lookUpCollection isContainer found
    exact ⟨listing, held⟩
  · rintro ⟨listing, held⟩
    obtain ⟨contexts, after, found⟩ := exists_returns_lookUpCollection cls
      (Store.kindOf_of_isContainer isContainer)
      ((Store.graphOf_of_isContainer isContainer).trans held) fun _ url listed => by
        obtain ⟨document, below⟩ := (mem_listedDocuments_iff held slashed silent).1 listed
        exact ⟨document, graphOf_of_holdsBelow slashed below⟩
    exact ⟨_, after, (returns_collection_iff collects ofClass kept).2 ⟨contexts, found, rfl⟩⟩

/-- The collection of a class that is kept in a container lists what the documents directly below the
container state to be instances of the class, each once and in the order of their texts. All of them are
read from the union of the documents. It is answered unless a URL that is listed is not valid. -/
theorem collection_lists_instances (collects : request.Collects typeName)
    (ofClass : resolver.classOf typeName = .ok cls) (kept : resolver.target cls = .ok target)
    (isContainer : world.resources.isContainer target = true) (slashed : Slashed world.resources)
    (silent : ∀ t ∈ world.resources.documentOrEmpty target, t.predicate ≠ Ldp.contains) :
    (∀ answer after, (resolver.resolve request).Returns Store.client world answer after →
      ∃ contexts, answer = .list (contexts.map .node) ∧
        ListsBelow world after target cls contexts) ∧
    ((∃ answer after, (resolver.resolve request).Returns Store.client world answer after) ↔
      ∀ url ∈ target :: world.resources.children target, Iri.isAbsolute url = true) := by
  refine ⟨fun answer after ran => ?_,
    exists_returns_collection_iff collects ofClass kept isContainer slashed silent⟩
  obtain ⟨contexts, found, rfl⟩ := (returns_collection_iff collects ofClass kept).1 ran
  obtain ⟨listing, -, -, held, -⟩ := returns_lookUpCollection isContainer found
  obtain ⟨kind, graph, collected⟩ := collected_of_returns_lookUpCollection found
  obtain rfl : .container = kind :=
    Except.ok.inj ((Store.kindOf_of_isContainer isContainer).symm.trans collected.isKind)
  exact ⟨contexts, rfl, collected.listsBelow held slashed silent⟩

end Collections

open AddressBook

/-- A contact whose document is not directly below the container of the contacts. -/
def draft : String := "http://example.org/contacts/drafts/eve#eve"

/-- The store holds the document of a contact without an IRI, and one in a container that is below that
of the contacts. -/
def scattered : World Store where
  resources := ((Store.empty.addContainer AddressBook.container).addTriples (documentUrl draft)
    [Graph.typing (.iri draft) person]).addTriples document [Graph.typing (.blank "friend") person]
  names := { draw := fun _ => 0 }

/-- The contact without an IRI is listed, the one deeper below the container is not. -/
theorem collection_lists_instances_scattered :
    ∃ (contexts : List Context) (after : World Store),
      (resolver.resolve contacts).Returns Store.client scattered (.list (contexts.map .node))
        after ∧
      ListsBelow scattered after AddressBook.container person contexts ∧
      (∃ listed ∈ contexts, listed.subject = some (.blank "friend")) ∧
      ¬ ∃ listed ∈ contexts, listed.subject = some (.iri draft) := by
  have collects : contacts.Collects "Contact" := ⟨by decide, rfl, rfl, rfl, rfl, rfl⟩
  have slashed : Slashed scattered.resources := by
    unfold Slashed
    decide
  have silent : ∀ t ∈ scattered.resources.documentOrEmpty AddressBook.container,
      t.predicate ≠ Ldp.contains := fun t own => absurd own (Graph.not_mem_empty t)
  obtain ⟨lists, answered⟩ := collection_lists_instances collects
    (show resolver.classOf "Contact" = .ok person from rfl)
    (show resolver.target person = .ok AddressBook.container from rfl)
    (show scattered.resources.isContainer AddressBook.container = true from rfl) slashed silent
  obtain ⟨answer, after, ran⟩ := answered.2 (by decide +kernel)
  obtain ⟨contexts, rfl, below⟩ := lists answer after ran
  have subjects : ((resolver.resolve contacts).runIn Store.client scattered).1.toOption.map
      (fun answer => (answer.listsSubject (.blank "friend"), answer.listsSubject (.iri draft))) =
        some (true, false) := by
    decide +kernel
  rw [show (resolver.resolve contacts).runIn Store.client scattered = _ from ran] at subjects
  obtain ⟨friend, noDraft⟩ := Prod.mk.inj (Option.some.inj subjects)
  refine ⟨contexts, after, ran, below, exists_of_listsSubject friend, ?_⟩
  rintro ⟨listed, mem, subject⟩
  rw [listsSubject_of_mem mem subject] at noDraft
  cases noDraft

end LinkedShapes.Resolution
