import LinkedShapes.Proofs.Attempt
import LinkedShapes.Proofs.Store

/-!
# What a collection lists

The instances of a class that is kept in a container are read from the union of the documents that the
container lists. A document that is directly below the container is listed, so that what it states
is found.

## Main statements

* `returns_downloadAll`: the union has the triples of each document.
* `returns_lookUpCollection`: what the instances in a container are read from.
* `returns_collection_iff`: a field that asks for all instances has a list of them.
-/

namespace LinkedShapes.Resolution

open Rdf Ldp Schema Attempt

theorem mem_listedDocuments {listing : Graph} {url : String} :
    url ∈ listedDocuments listing ↔
      (∃ container, ⟨container, Ldp.contains, .iri url⟩ ∈ listing) ∧
        url.toList.getLast? ≠ some '/' := by
  unfold listedDocuments
  rw [Text.sorted, Text.mem_sortBy, List.mem_filter, List.mem_filterMap]
  refine and_congr ⟨?_, ?_⟩ (by simp)
  · rintro ⟨object, h, isIri⟩
    obtain ⟨triple, found, rfl⟩ := List.mem_map.1 h
    obtain ⟨listed, links⟩ := Graph.mem_find.1 found
    have predicate := (Graph.Pattern.matchesTriple_iff.1 links).2.1 _ rfl
    rw [Term.iri?_eq_some_iff] at isIri
    refine ⟨triple.subject, ?_⟩
    rw [← predicate, ← isIri]
    exact listed
  · rintro ⟨container, listed⟩
    refine ⟨.iri url, List.mem_map.2 ⟨_, Graph.mem_find.2 ⟨listed, ?_⟩, rfl⟩, rfl⟩
    simp [Graph.Pattern.matchesTriple]

/-- What is directly below a container is listed with it, unless it ends in a slash. -/
theorem mem_listedDocuments_of_mem_children {store : Store} {container url : String} {listing : Graph}
    (held : store.containerGraph container = .ok listing) (child : url ∈ store.children container)
    (isDocument : url.toList.getLast? ≠ some '/') : url ∈ listedDocuments listing := by
  have lists : Store.containment container url ∈ listing :=
    (Store.mem_containerGraph held).2 (.inr (.inr (.inr ⟨url, child, rfl⟩)))
  exact mem_listedDocuments.2 ⟨⟨.iri container, lists⟩, isDocument⟩

theorem returns_kind_bind_of_isContainer {α : Type} {world after : World Store} {url : String}
    {next : ResourceKind → Attempt α} {result : α}
    (container : world.resources.isContainer url = true) :
    (kind url >>= next).Returns Store.client world result after ↔
      (next .container).Returns Store.client
        { world with resources := world.resources.note url .kind } result after :=
  returns_bind_of_returns (returns_kind.2 ⟨Store.kindOf_of_isContainer container, rfl⟩)

section Downloads

variable {world after : World Store} {start merged : Graph} {urls : List String}

/-- The union of some documents, added to a graph, has the triples of the graph and of each document,
all of which exist. -/
theorem returns_foldlM_download
    (ran : (urls.foldlM (fun merged url => return merged.merge (← download url)) start :
      Attempt Graph).Returns Store.client world merged after) :
    (∀ url ∈ urls, ∃ graph, world.resources.graphOf url = .ok graph) ∧
      ∀ t, t ∈ merged ↔ t ∈ start ∨
        ∃ url ∈ urls, ∃ graph, world.resources.graphOf url = .ok graph ∧ t ∈ graph := by
  induction urls generalizing world start with
  | nil =>
    obtain ⟨rfl, -⟩ := returns_pure.1 ran
    simp
  | cons url rest ih =>
    rw [List.foldlM_cons] at ran
    obtain ⟨next, between, first, ran⟩ := returns_bind.1 ran
    obtain ⟨graph, _, downloaded, first⟩ := returns_bind.1 first
    obtain ⟨answer, rfl⟩ := returns_download.1 downloaded
    obtain ⟨rfl, rfl⟩ := returns_pure.1 first
    have answer : world.resources.graphOf url = .ok graph := answer
    obtain ⟨exist, members⟩ := ih ran
    refine ⟨fun other h => ?_, fun t => ?_⟩
    · rcases List.mem_cons.1 h with rfl | h
      · exact ⟨graph, answer⟩
      · exact exist other h
    · have members : t ∈ merged ↔ (t ∈ start ∨ t ∈ graph) ∨
          ∃ url ∈ rest, ∃ graph, world.resources.graphOf url = .ok graph ∧ t ∈ graph :=
        (members t).trans (or_congr_left Graph.mem_merge)
      rw [members, or_assoc]
      simp [answer]

theorem returns_downloadAll
    (ran : (downloadAll urls).Returns Store.client world merged after) :
    (∀ url ∈ urls, ∃ graph, world.resources.graphOf url = .ok graph) ∧
      ∀ t, t ∈ merged ↔
        ∃ url ∈ urls, ∃ graph, world.resources.graphOf url = .ok graph ∧ t ∈ graph := by
  obtain ⟨exist, members⟩ := returns_foldlM_download ran
  refine ⟨exist, fun t => ?_⟩
  rw [members t, or_iff_right (Graph.not_mem_empty t)]

end Downloads

section Collections

variable {world after : World Store} {cls target : String} {contexts : List Context}

/-- The instances of a class in a container are those of the union of the documents that it lists;
their contexts share a graph with the triples of the union. -/
theorem returns_lookUpCollection (container : world.resources.isContainer target = true)
    (ran : (lookUpCollection cls target).Returns Store.client world contexts after) :
    ∃ listing union ref, world.resources.containerGraph target = .ok listing ∧
      (∀ t, t ∈ union ↔ ∃ url ∈ listedDocuments listing, ∃ graph,
        world.resources.graphOf url = .ok graph ∧ t ∈ graph) ∧
      contexts = (sortedInstances union cls).map
        ({ graph := ref, kind := .container, url := target : Context }.entity) := by
  have ran := (returns_kind_bind_of_isContainer container).1 ran
  obtain ⟨listing, _, downloaded, ran⟩ := returns_bind.1 ran
  obtain ⟨listed, rfl⟩ := returns_download.1 downloaded
  have listed : world.resources.containerGraph target = .ok listing :=
    (Store.graphOf_of_isContainer container).symm.trans listed
  obtain ⟨union, _, merged, ran⟩ := returns_bind.1 ran
  obtain ⟨ref, _, -, ran⟩ := returns_bind.1 ran
  obtain ⟨rfl, -⟩ := returns_pure.1 ran
  exact ⟨listing, union, ref, listed, (returns_downloadAll merged).2, rfl⟩

end Collections

/-- The field asks for all the instances of a type. -/
structure Request.Collects (request : Request) (typeName : String) : Prop where
  /-- The field is not read from the context of an entity. -/
  entry : ¬ Reads request.field
  /-- The field does not ask for a change. -/
  query : request.isMutation = false
  /-- The type of the instances. -/
  type : request.field.type.name = typeName
  /-- The field has a list. -/
  list : request.field.type.list = true
  /-- No entity is named by the arguments. -/
  unnamed : request.argument? identifierField = none
  /-- The field does not belong to an entity. -/
  root : request.parent = none

section Entries

variable {σ : Type} {client : Client σ} {world after : World σ} {resolver : Resolver}
  {request : Request} {typeName cls target : String} {result : Resolved}

/-- A field that asks for all instances has a list of those that are found where the instances of the
class are kept. -/
theorem returns_collection_iff (collects : request.Collects typeName)
    (ofClass : resolver.classOf typeName = .ok cls) (kept : resolver.target cls = .ok target) :
    (resolver.resolve request).Returns client world result after ↔
      ∃ contexts, (lookUpCollection cls target).Returns client world contexts after ∧
        result = .list (contexts.map .node) := by
  rw [resolve_of_query collects.entry collects.query]
  rw [← collects.type] at ofClass
  refine (returns_lift_bind_of_eq ofClass).trans ((returns_lift_bind_of_eq kept).trans ?_)
  simp only [collects.unnamed, collects.root, Option.bind_none]
  rw [returns_bind_of_returns (returns_pure.2 ⟨rfl, rfl⟩)]
  refine returns_bind_pure.trans ?_
  simp only [Resolved.ofItems, collects.list, if_true]

end Entries

end LinkedShapes.Resolution
