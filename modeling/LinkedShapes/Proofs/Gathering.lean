import LinkedShapes.Proofs.Collection
import LinkedShapes.Proofs.Overwriting

/-!
# What a collection is gathered from

The instances of a class are those of one graph: the resource that holds the class, or the union of the
documents that it lists. A collection is answered whenever all of these can be read. Where each listed
document is only about IRIs of its own, the union says of an IRI what its document says; of a blank
node, whose label any document may use, it may say more.

## Main statements

* `collected_of_returns_lookUpCollection`: what the instances of a class are read from.
* `exists_returns_lookUpCollection`: when they are answered.
* `Gathered.exists_document`: what the union of the listed documents says of an IRI.
-/

namespace LinkedShapes.Ldp.Store

variable {before after : Store} {url : String}

theorem Asked.document? (asked : before.Asked after) : after.document? url = before.document? url := by
  rw [Store.document?, Store.document?, asked.documents]

theorem Asked.isContainer (asked : before.Asked after) :
    after.isContainer url = before.isContainer url := by
  rw [Store.isContainer, Store.isContainer, asked.containers]

/-- A question changes no kind. -/
theorem Asked.kindOf (asked : before.Asked after) : after.kindOf url = before.kindOf url := by
  rw [Store.kindOf, Store.kindOf, asked.document?, asked.isContainer]

theorem Asked.containerGraph (asked : before.Asked after) :
    after.containerGraph url = before.containerGraph url := by
  simp only [Store.containerGraph, children, documentUrls, documentOrEmpty, asked.document?,
    asked.documents, asked.containers]

/-- A question changes no triples. -/
theorem Asked.graphOf (asked : before.Asked after) : after.graphOf url = before.graphOf url := by
  rw [Store.graphOf, Store.graphOf, asked.document?, asked.isContainer, asked.containerGraph]

/-- A document can be read. -/
theorem exists_graphOf_of_document {store : Store} (isDocument : store.kindOf url = .ok .document) :
    ∃ graph, store.graphOf url = .ok graph := by
  obtain ⟨noContainer, there⟩ := kindOf_eq_document_iff.1 isDocument
  obtain ⟨graph, there⟩ := Option.isSome_iff_exists.1 there
  exact ⟨graph, graphOf_of_document noContainer there⟩

theorem kindOf_eq_container_iff {store : Store} :
    store.kindOf url = .ok .container ↔ store.isContainer url = true := by
  unfold kindOf
  cases store.isContainer url <;> cases (store.document? url).isSome <;> simp

end LinkedShapes.Ldp.Store

namespace LinkedShapes.Resolution

open Rdf Ldp Schema Attempt

/-! ### What a collection is read from -/

/-- The container at a URL lists a document. -/
def ListedIn (store : Store) (container url : String) : Prop :=
  ∃ listing, store.containerGraph container = .ok listing ∧ url ∈ listedDocuments listing

/-- A container whose own document lists nothing lists what is directly below it. -/
theorem mem_children_of_mem_listedDocuments {store : Store} {container url : String} {listing : Graph}
    (held : store.containerGraph container = .ok listing)
    (silent : ∀ t ∈ store.documentOrEmpty container, t.predicate ≠ Ldp.contains)
    (listed : url ∈ listedDocuments listing) : url ∈ store.children container := by
  obtain ⟨⟨subject, mem⟩, -⟩ := mem_listedDocuments.1 listed
  have noType : Ldp.contains ≠ RdfSyntax.type := by decide
  rcases (Store.mem_containerGraph held).1 mem with own | type | type | ⟨child, there, lists⟩
  · exact absurd rfl (silent _ own)
  · exact absurd (congrArg Triple.predicate type) noType
  · exact absurd (congrArg Triple.predicate type) noType
  · obtain rfl : child = url := by simpa [Store.containment] using congrArg Triple.object lists
    exact there

/-- What the instances of a class are read from: the resource itself, or the union of the documents
that it lists. -/
def Gathered (store : Store) (target : String) : ResourceKind → Graph → Prop
  | .document, graph => store.graphOf target = .ok graph
  | .container, graph => ∀ t, t ∈ graph ↔ ∃ url, ListedIn store target url ∧
      ∃ document, store.graphOf url = .ok document ∧ t ∈ document

theorem gathered_asked_iff {before after : Store} {target : String} {kind : ResourceKind}
    {graph : Graph} (asked : before.Asked after) :
    Gathered after target kind graph ↔ Gathered before target kind graph := by
  cases kind <;> simp only [Gathered, ListedIn, asked.graphOf, asked.containerGraph]

/-- Reads what the instances of a class are read from, given the triples of the resource. -/
def gather (resource : Graph) : ResourceKind → Attempt Graph
  | .document => pure resource
  | .container => downloadAll (listedDocuments resource)

section Collections

variable {world after : World Store} {cls target : String} {contexts : List Context} {graph : Graph}

theorem lookUpCollection_eq : lookUpCollection cls target = do
    let kind ← Attempt.kind target
    let resource ← Attempt.download target
    let graph ← gather resource kind
    let ref ← Attempt.newGraph graph
    return (sortedInstances graph cls).map
      ({ graph := ref, kind := kind, url := target : Context }.entity) := by
  unfold lookUpCollection
  congr 1
  funext kind
  congr 1
  funext resource
  cases kind <;> rfl

/-- The graph that is gathered is what the instances are read from; the store is only asked for it. -/
theorem gathered_of_returns_gather {kind : ResourceKind} {resource : Graph}
    (ran : (gather resource kind).Returns Store.client world graph after)
    (isKind : world.resources.kindOf target = .ok kind)
    (held : world.resources.graphOf target = .ok resource) :
    Gathered world.resources target kind graph ∧ after.graphs = world.graphs ∧
      world.resources.Asked after.resources := by
  cases kind with
  | document =>
    obtain ⟨rfl, rfl⟩ := returns_pure.1 ran
    exact ⟨held, rfl, .refl _⟩
  | container =>
    have observes := observes_downloadAll (listedDocuments resource)
    have asked := observes.asked world
    rw [show (downloadAll (listedDocuments resource)).runIn Store.client world = _ from ran] at asked
    have container : world.resources.isContainer target = true :=
      Store.kindOf_eq_container_iff.1 isKind
    rw [Store.graphOf_of_isContainer container] at held
    refine ⟨fun t => ((returns_downloadAll ran).2 t).trans ⟨?_, ?_⟩, observes.graphs_eq ran, asked⟩
    · rintro ⟨url, listed, document, there, mem⟩
      exact ⟨url, ⟨resource, held, listed⟩, document, there, mem⟩
    · rintro ⟨url, ⟨listing, again, listed⟩, document, there, mem⟩
      obtain rfl := Except.ok.inj (held.symm.trans again)
      exact ⟨url, listed, document, there, mem⟩

/-- The instances of a class were found: they are those of one graph, which is made of the resource and
which their contexts share. -/
structure Collected (world after : World Store) (cls target : String) (kind : ResourceKind)
    (graph : Graph) (contexts : List Context) : Prop where
  /-- The kind of the resource. -/
  isKind : world.resources.kindOf target = .ok kind
  /-- The graph is made of the resource. -/
  gathered : Gathered world.resources target kind graph
  /-- The contexts are those of the instances. -/
  contexts : contexts = (sortedInstances graph cls).map
    ({ graph := world.graphs.size, kind := kind, url := target : Context }.entity)
  /-- One shared graph is made. -/
  graphs : after.graphs = world.graphs.push graph
  /-- The store is only asked. -/
  asked : world.resources.Asked after.resources

/-- Whenever the instances of a class are answered, they were found. -/
theorem collected_of_returns_lookUpCollection
    (ran : (lookUpCollection cls target).Returns Store.client world contexts after) :
    ∃ kind graph, Collected world after cls target kind graph contexts := by
  rw [lookUpCollection_eq] at ran
  obtain ⟨kind, _, asked, ran⟩ := returns_bind.1 ran
  obtain ⟨isKind, rfl⟩ := returns_kind.1 asked
  obtain ⟨resource, _, downloaded, ran⟩ := returns_bind.1 ran
  obtain ⟨held, rfl⟩ := returns_download.1 downloaded
  obtain ⟨graph, between, gathered, ran⟩ := returns_bind.1 ran
  obtain ⟨ref, _, made, ran⟩ := returns_bind.1 ran
  obtain ⟨rfl, rfl⟩ := returns_newGraph.1 made
  obtain ⟨rfl, rfl⟩ := returns_pure.1 ran
  have isKind : world.resources.kindOf target = .ok kind := isKind
  have noted : world.resources.Asked
      ((world.resources.note target .kind).note target .download) :=
    (Store.asked_note rfl).trans (Store.asked_note rfl)
  have gathered : (gather resource kind).Returns Store.client
      { world with resources := (world.resources.note target .kind).note target .download } graph
      between := gathered
  obtain ⟨isGathered, graphs, asked⟩ := gathered_of_returns_gather gathered
    (noted.kindOf.trans isKind) (noted.graphOf.trans held)
  have isGathered := (gathered_asked_iff noted).1 isGathered
  refine ⟨kind, graph, isKind, isGathered, ?_, ?_, noted.trans asked⟩
  · rw [graphs]
  · exact congrArg (·.push graph) graphs

/-- A union of documents that can be read is always answered. -/
theorem returns_foldlM_download_of_exists {urls : List String} (world : World Store) (start : Graph)
    (readable : ∀ url ∈ urls, ∃ graph, world.resources.graphOf url = .ok graph) :
    ∃ merged after, (urls.foldlM (fun merged url => return merged.merge (← download url)) start :
      Attempt Graph).Returns Store.client world merged after := by
  induction urls generalizing world start with
  | nil => exact ⟨start, world, returns_pure.2 ⟨rfl, rfl⟩⟩
  | cons url rest ih =>
    obtain ⟨graph, held⟩ := readable url List.mem_cons_self
    let noted : World Store := { world with resources := world.resources.note url .download }
    have asked : world.resources.Asked noted.resources := Store.asked_note rfl
    obtain ⟨merged, after, ran⟩ := ih noted (start.merge graph) fun other there => by
      rw [asked.graphOf]
      exact readable other (List.mem_cons_of_mem _ there)
    have first : (do return start.merge (← download url) : Attempt Graph).Returns Store.client world
        (start.merge graph) noted :=
      returns_bind_pure.2 ⟨graph, returns_download.2 ⟨held, rfl⟩, rfl⟩
    exact ⟨merged, after, by rw [List.foldlM_cons]; exact (returns_bind_of_returns first).2 ran⟩

/-- The instances of a class are always answered, if the resource and what it lists can be read. -/
theorem exists_returns_lookUpCollection {kind : ResourceKind} {resource : Graph} (cls : String)
    (isKind : world.resources.kindOf target = .ok kind)
    (held : world.resources.graphOf target = .ok resource)
    (readable : kind = .container → ∀ url ∈ listedDocuments resource,
      ∃ graph, world.resources.graphOf url = .ok graph) :
    ∃ contexts after, (lookUpCollection cls target).Returns Store.client world contexts after := by
  let noted : World Store :=
    { world with resources := (world.resources.note target .kind).note target .download }
  have asked : world.resources.Asked noted.resources :=
    (Store.asked_note rfl).trans (Store.asked_note rfl)
  obtain ⟨graph, after, gathered⟩ : ∃ graph after,
      (gather resource kind).Returns Store.client noted graph after := by
    cases kind with
    | document => exact ⟨resource, noted, returns_pure.2 ⟨rfl, rfl⟩⟩
    | container =>
      refine returns_foldlM_download_of_exists noted .empty fun url there => ?_
      rw [asked.graphOf]
      exact readable rfl url there
  refine ⟨(sortedInstances graph cls).map
      ({ graph := after.graphs.size, kind := kind, url := target : Context }.entity),
    { after with graphs := after.graphs.push graph }, ?_⟩
  rw [lookUpCollection_eq]
  refine (returns_bind_of_returns (returns_kind.2 ⟨isKind, rfl⟩)).2 ?_
  refine (returns_bind_of_returns (returns_download.2 ⟨held, rfl⟩)).2 ?_
  refine (returns_bind_of_returns gathered).2 ?_
  exact (returns_bind_of_returns (returns_newGraph.2 ⟨rfl, rfl⟩)).2 (returns_pure.2 ⟨rfl, rfl⟩)

end Collections

/-! ### Documents that are about IRIs of their own -/

section Own

variable {store : Store} {target url iri cls : String} {graph document : Graph}

/-- What the documents that a container lists say of IRIs, each says of IRIs of its own. -/
def ListsOwn (store : Store) (container : String) : Prop :=
  ∀ url, ListedIn store container url → ∀ document, store.graphOf url = .ok document →
    ∀ t ∈ document, ∀ iri, t.subject = .iri iri → documentUrl iri = url

/-- What a listed document says is in the union. -/
theorem Gathered.mem_of_mem (gathered : Gathered store target .container graph)
    (listed : ListedIn store target url) (held : store.graphOf url = .ok document) {t : Triple}
    (mem : t ∈ document) : t ∈ graph :=
  (gathered t).2 ⟨url, listed, document, held, mem⟩

/-- What the union of the listed documents says of an entity that it states the class of, where each
document is about IRIs of its own: the document of the entity is listed, and says of it what the union
says. -/
theorem Gathered.exists_document (gathered : Gathered store target .container graph)
    (own : ListsOwn store target) (typed : Graph.typing (.iri iri) cls ∈ graph) :
    ∃ document, ListedIn store target (documentUrl iri) ∧
      store.graphOf (documentUrl iri) = .ok document ∧
      ∀ t, t.subject = .iri iri → (t ∈ graph ↔ t ∈ document) := by
  obtain ⟨url, listed, document, held, mem⟩ := (gathered _).1 typed
  obtain rfl : documentUrl iri = url := own url listed document held _ mem iri rfl
  refine ⟨document, listed, held, fun t subject => ⟨fun mem => ?_, gathered.mem_of_mem listed held⟩⟩
  obtain ⟨other, listed', found, there, mem⟩ := (gathered t).1 mem
  obtain rfl : documentUrl iri = other := own other listed' found there t mem iri subject
  exact Except.ok.inj (there.symm.trans held) ▸ mem

end Own

end LinkedShapes.Resolution
