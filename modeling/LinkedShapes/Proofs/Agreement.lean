import LinkedShapes.Proofs.Freshness
import LinkedShapes.Proofs.Gathering
import LinkedShapes.Proofs.Values

/-!
# Collections and single entities agree

The instances of a class are found in two ways: all of them in the resource that holds the class, or
one of them by its identifier. In a document both ways read the same triples. In a container the first
reads the union of the documents that the container lists, and the second only the document of the
identifier. Where each listed document is only about IRIs of its own, a listed entity is found by its
identifier and reads the same; its links lead to entities in the union at least where they do in the
document, which may leave the class of an entity to another document.

## Main statements

* `Collected.returns_instance`: a listed entity is found by its identifier.
* `Context.readsWithin_of_part`: what is read of an entity in a part of a graph.
* `queries_agree`: all instances of a class and one of them by its identifier are answered alike.
-/

namespace LinkedShapes.Resolution

open Rdf Ldp Schema Attempt

/-! ### Containers and their documents -/

/-- The URLs of the containers end in a slash. -/
def Slashed (store : Store) : Prop :=
  ∀ url ∈ store.containers, url.toList.getLast? = some '/'

/-- The documents that a container lists are, where they are about IRIs, about IRIs of their own. -/
def DocumentsOwn (store : Store) (container : String) : Prop :=
  ∀ url, ListedIn store container url → ∀ document, store.document? url = some document →
    ∀ t ∈ document, ∀ iri, t.subject = .iri iri → documentUrl iri = url

/-- Where containers end in a slash, what is listed are documents. -/
theorem listsOwn_of_slashed {store : Store} {container : String} (slashed : Slashed store)
    (own : DocumentsOwn store container) : ListsOwn store container := by
  intro url listed document held
  obtain ⟨listing, -, mem⟩ := id listed
  have noContainer : store.isContainer url = false := by
    rw [Store.isContainer, decide_eq_false_iff_not]
    exact fun there => (mem_listedDocuments.1 mem).2 (slashed url there)
  refine own url listed document ?_
  rw [Store.graphOf, noContainer] at held
  cases there : store.document? url with
  | none => simp [there] at held
  | some found => simpa [there] using held

/-! ### Entities that are listed and asked for -/

/-- The context with its fields read from another graph. -/
def Context.inGraph (context : Context) (ref : GraphRef) : Context := { context with graph := ref }

/-- Where an entity leads to does not depend on the graph. -/
theorem entity_inGraph {context : Context} {ref : GraphRef} (node : Node) :
    ((context.inGraph ref).entity node).inGraph context.graph = context.entity node := by
  rcases context with ⟨subject, graph, kind, url, handled⟩
  cases node <;> cases kind <;> rfl

section Listed

variable {graph : Graph} {cls target iri : String} {kind : ResourceKind} {ref : GraphRef}

theorem mem_sortedInstances {node : Node} :
    node ∈ sortedInstances graph cls ↔ Graph.typing node cls ∈ graph := by
  rw [sortedInstances, Text.mem_sortBy, Graph.mem_instances]

/-- An entity with an IRI that is listed is in the resource that it is looked up in. -/
theorem entity_iri : ({ graph := ref, kind := kind, url := target : Context }).entity (.iri iri) =
    { subject := some (.iri iri), graph := ref, kind := kind,
      url := lookUpUrl kind target (.iri iri) } := by
  cases kind <;> rfl

end Listed

section Answers

variable {world after : World Store} {resolver : Resolver} {request query : Request}
  {typeName iri cls target : String} {kind : ResourceKind} {graph document : Graph}
  {contexts : List Context} {listed : Context}

namespace Collected

/-- The entities that are listed with an IRI are the instances with this IRI. -/
theorem mem_iff (collected : Collected world after cls target kind graph contexts)
    (subject : listed.subject = some (.iri iri)) :
    listed ∈ contexts ↔ Graph.typing (.iri iri) cls ∈ graph ∧
      listed = { subject := some (.iri iri), graph := world.graphs.size, kind := kind,
                 url := lookUpUrl kind target (.iri iri) } := by
  rw [collected.contexts, List.mem_map]
  constructor
  · rintro ⟨node, found, rfl⟩
    rw [Context.subject_entity, Option.some.injEq] at subject
    subst subject
    exact ⟨mem_sortedInstances.1 found, entity_iri⟩
  · rintro ⟨typed, rfl⟩
    exact ⟨.iri iri, mem_sortedInstances.2 typed, entity_iri⟩

/-- A listed entity with an absolute IRI whose class is stated where it is looked up is found there by
its identifier. It is the same entity, read from a copy of the triples there. -/
theorem returns_instance (collected : Collected world after cls target kind graph contexts)
    (ofClass : resolver.classOf typeName = .ok cls) (kept : resolver.target cls = .ok target)
    (held : world.resources.graphOf (lookUpUrl kind target (.iri iri)) = .ok document)
    (typed : Graph.typing (.iri iri) cls ∈ document) (mem : listed ∈ contexts)
    (subject : listed.subject = some (.iri iri)) (isAbsolute : Iri.isAbsolute iri = true)
    (finds : query.Finds typeName iri) :
    ∃ ref last, (resolver.resolve query).Returns Store.client after
        (.node (listed.inGraph ref)) last ∧
      last.graph ref = document ∧ last.graph listed.graph = graph := by
  obtain ⟨-, rfl⟩ := (collected.mem_iff subject).1 mem
  obtain ⟨last, answered, pushed⟩ := returns_instance_of_typing finds isAbsolute ofClass kept
    (collected.asked.kindOf.trans collected.isKind) (collected.asked.graphOf.trans held) typed
  have there : world.graphs.size < after.graphs.size := by
    rw [collected.graphs, Array.size_push]
    exact Nat.lt_succ_self _
  refine ⟨after.graphs.size, last, answered, World.graph_of_push pushed, ?_⟩
  exact (World.graph_of_push_of_lt pushed there).trans (World.graph_of_push collected.graphs)

end Collected

/-- A field that asks for the entity of an absolute IRI has no value if the resource at the URL that it
is looked up at does not state its class. -/
theorem returns_instance_of_not_typing (finds : request.Finds typeName iri)
    (isAbsolute : Iri.isAbsolute iri = true) (ofClass : resolver.classOf typeName = .ok cls)
    (kept : resolver.target cls = .ok target)
    (isKind : world.resources.kindOf target = .ok kind)
    (held : world.resources.graphOf (lookUpUrl kind target (.iri iri)) = .ok graph)
    (untyped : Graph.typing (.iri iri) cls ∉ graph) :
    ∃ last, (resolver.resolve request).Returns Store.client world .null last := by
  have names := parseIdentifier_of_isAbsolute isAbsolute identifierField target
  have nothing : ∃ last,
      (lookUpInstance cls target (.iri iri)).Returns Store.client world none last := by
    let url := lookUpUrl kind target (.iri iri)
    refine ⟨{ world with resources := (world.resources.note target .kind).note url .download }, ?_⟩
    refine (returns_bind_of_returns (returns_kind.2 ⟨isKind, rfl⟩)).2 ?_
    refine (returns_bind_of_returns (returns_askDownload.2 ⟨held, rfl⟩)).2 ?_
    dsimp only
    rw [if_neg (fun isInstance => untyped (Graph.isInstance_eq_true_iff.1 isInstance))]
    exact returns_pure.2 ⟨rfl, rfl⟩
  obtain ⟨last, ran⟩ := nothing
  exact ⟨last, (returns_instance_iff finds ofClass kept names).2 ⟨none, ran, rfl⟩⟩

/-! ### Entities that are read the same -/

/-- The field, read from an entity. -/
def Request.ofEntity (read : Request) (context : Context) : Request :=
  { read with parent := some context }

/-- In a world one entity reads as a part of another one: it is the same entity in another graph, it
has the same scalars, and its lists of entities are parts of those of the other one. -/
structure Context.ReadsWithin (resolver : Resolver) (world : World Store) (one other : Context) :
    Prop where
  /-- Only the graph is another one. -/
  same : one = other.inGraph one.graph
  /-- It is known by the same identifier. -/
  identifier : one.identifier? = other.identifier?
  /-- A field of scalars has the same value. -/
  scalars : ∀ read : Request, read.field.property?.isSome → read.field.type.scalar?.isSome →
    ∃ value,
      (resolver.resolve (read.ofEntity one)).Returns Store.client world value world ∧
      (resolver.resolve (read.ofEntity other)).Returns Store.client world value world
  /-- What is in a list of entities is in that of the other one. -/
  relations : ∀ read : Request, read.field.property?.isSome → read.field.type.scalar? = none →
    read.field.type.list = true → ∃ few many : List Context,
      (resolver.resolve (read.ofEntity one)).Returns Store.client world (.list (few.map .node))
        world ∧
      (resolver.resolve (read.ofEntity other)).Returns Store.client world (.list (many.map .node))
        world ∧
      ∀ child ∈ few, child.inGraph other.graph ∈ many

/-- An entity that is read from a part of a graph with all triples about it reads as a part of the one
that is read from the whole graph. -/
theorem Context.readsWithin_of_part {last : World Store} {node : Node} {ref : GraphRef}
    (subject : listed.subject = some node) (copy : last.graph ref = document)
    (shared : last.graph listed.graph = graph) (part : ∀ t ∈ document, t ∈ graph)
    (about : ∀ t, t.subject = node → (t ∈ graph ↔ t ∈ document)) :
    (listed.inGraph ref).ReadsWithin resolver last listed where
  same := rfl
  identifier := rfl
  scalars read stands scalars := by
    obtain ⟨property, stands⟩ := Option.isSome_iff_exists.1 stands
    obtain ⟨scalar, scalars⟩ := Option.isSome_iff_exists.1 scalars
    have values : scalarValues document node property scalar =
        scalarValues graph node property scalar :=
      scalarValues_congr fun object _ => (about ⟨node, property, object⟩ rfl).symm
    refine ⟨_, returns_scalars stands scalars rfl subject copy, ?_⟩
    rw [values]
    exact returns_scalars stands scalars rfl subject shared
  relations read stands entities list := by
    obtain ⟨property, stands⟩ := Option.isSome_iff_exists.1 stands
    refine ⟨_, _, returns_links_list stands entities list rfl subject copy,
      returns_links_list stands entities list rfl subject shared, fun child reached => ?_⟩
    obtain ⟨n, linked, rfl⟩ := List.mem_map.1 reached
    obtain ⟨link, ofType⟩ := mem_linkedNodes.1 linked
    have linked := mem_linkedNodes.2 ⟨part _ link, fun c known => part _ (ofType c known)⟩
    exact List.mem_map.2 ⟨n, linked, (entity_inGraph n).symm⟩

/-- All instances of a class and one of them by its identifier are answered alike. If they are kept in
a document, the entity of an absolute IRI is found if and only if it is listed, and it is the same
entity with the same triples. If they are kept in a container whose documents are about IRIs of their
own, each listed entity with an absolute IRI is found, and it reads as a part of the listed one. -/
theorem queries_agree (collects : request.Collects typeName)
    (ofClass : resolver.classOf typeName = .ok cls) (kept : resolver.target cls = .ok target) :
    (world.resources.kindOf target = .ok .document →
      ∃ (contexts : List Context) (after : World Store),
        (resolver.resolve request).Returns Store.client world (.list (contexts.map .node)) after ∧
        ∀ iri query, Iri.isAbsolute iri = true → query.Finds typeName iri →
          ∃ answer last, (resolver.resolve query).Returns Store.client after answer last ∧
            ((∃ listed ∈ contexts, listed.subject = some (.iri iri)) ↔
              ∃ one, answer = .node one) ∧
            ∀ listed ∈ contexts, listed.subject = some (.iri iri) → ∀ one, answer = .node one →
              one = listed.inGraph one.graph ∧
                last.graph one.graph = last.graph listed.graph) ∧
    (world.resources.kindOf target = .ok .container → Slashed world.resources →
      DocumentsOwn world.resources target → ∀ answer after,
      (resolver.resolve request).Returns Store.client world answer after →
      ∃ contexts : List Context, answer = .list (contexts.map .node) ∧
        ∀ listed ∈ contexts, ∀ iri query, listed.subject = some (.iri iri) →
          Iri.isAbsolute iri = true → query.Finds typeName iri →
          ∃ one last, (resolver.resolve query).Returns Store.client after (.node one) last ∧
            one.ReadsWithin resolver last listed) := by
  constructor
  · intro isDocument
    obtain ⟨graph, held⟩ := Store.exists_graphOf_of_document isDocument
    obtain ⟨contexts, after, found⟩ := exists_returns_lookUpCollection cls isDocument held nofun
    have ran := (returns_collection_iff collects ofClass kept).2 ⟨contexts, found, rfl⟩
    refine ⟨contexts, after, ran, fun iri query isAbsolute finds => ?_⟩
    obtain ⟨kind, source, collected⟩ := collected_of_returns_lookUpCollection found
    obtain rfl : .document = kind := Except.ok.inj (isDocument.symm.trans collected.isKind)
    obtain rfl : graph = source := Except.ok.inj (held.symm.trans collected.gathered)
    by_cases typed : Graph.typing (.iri iri) cls ∈ graph
    · have mem := (collected.mem_iff rfl).2 ⟨typed, rfl⟩
      obtain ⟨ref, last, answered, copy, shared⟩ :=
        collected.returns_instance ofClass kept held typed mem rfl isAbsolute finds
      refine ⟨_, last, answered, iff_of_true ⟨_, mem, rfl⟩ ⟨_, rfl⟩, ?_⟩
      intro listed mem subject one same
      obtain rfl := Resolved.node.inj same
      obtain ⟨-, rfl⟩ := (collected.mem_iff subject).1 mem
      exact ⟨rfl, copy.trans shared.symm⟩
    · obtain ⟨last, answered⟩ := returns_instance_of_not_typing finds isAbsolute ofClass kept
        (collected.asked.kindOf.trans isDocument) (collected.asked.graphOf.trans held) typed
      have notListed : ¬ ∃ listed ∈ contexts, listed.subject = some (.iri iri) := by
        rintro ⟨listed, mem, subject⟩
        exact typed ((collected.mem_iff subject).1 mem).1
      refine ⟨.null, last, answered, iff_of_false notListed (by simp), ?_⟩
      intro listed mem subject
      exact absurd ⟨listed, mem, subject⟩ notListed
  · intro isContainer slashed own answer after ran
    obtain ⟨contexts, found, rfl⟩ := (returns_collection_iff collects ofClass kept).1 ran
    refine ⟨contexts, rfl, fun listed mem iri query subject isAbsolute finds => ?_⟩
    obtain ⟨kind, union, collected⟩ := collected_of_returns_lookUpCollection found
    obtain rfl : .container = kind := Except.ok.inj (isContainer.symm.trans collected.isKind)
    have typed := ((collected.mem_iff subject).1 mem).1
    obtain ⟨document, inListing, held, about⟩ :=
      collected.gathered.exists_document (listsOwn_of_slashed slashed own) typed
    obtain ⟨ref, last, answered, copy, shared⟩ := collected.returns_instance ofClass kept held
      ((about _ rfl).1 typed) mem subject isAbsolute finds
    have part (t : Triple) : t ∈ document → t ∈ union := collected.gathered.mem_of_mem inListing held
    exact ⟨_, last, answered, Context.readsWithin_of_part subject copy shared part about⟩

end Answers

open AddressBook

theorem exists_of_listsSubject {contexts : List Context} {subject : Node}
    (lists : (Resolved.list (contexts.map .node)).listsSubject subject = true) :
    ∃ listed ∈ contexts, listed.subject = some subject := by
  simpa [Resolved.listsSubject] using lists

/-- A contact who knows nobody. -/
def hermit : String := "http://example.org/contacts/ada#hermit"

/-- What is stated of the contact. -/
def hermitTriples : List Triple :=
  [Graph.typing (.iri hermit) person,
   literalTriple hermit "http://schema.org/email" (.simple "hermit@example.org")]

/-- The store holds one document, with one contact. -/
def secluded : World Store where
  resources := (Store.empty.addContainer AddressBook.container).addTriples document hermitTriples
  names := { draw := fun _ => 0 }

/-- The document of the contact is about an IRI of its own. -/
theorem documentsOwn_secluded : DocumentsOwn secluded.resources AddressBook.container := by
  intro url _ found there t mem iri subject
  by_cases same : document = url
  · subst same
    obtain rfl : Graph.empty.addAll hermitTriples = found := Option.some.inj there
    have subjects : ∀ t ∈ hermitTriples, t.subject = .iri hermit := by decide
    obtain rfl := Node.iri.inj ((subjects t (Graph.mem_ofList.1 mem)).symm.trans subject)
    decide
  · simp [Store.document?, secluded, Store.addTriples, Store.put, Store.putDocument,
      Store.addContainer, Store.empty, same] at there

/-- A contact is found as it is listed, where the contacts are kept in one document and where they are
kept in a container. -/
theorem queries_agree_hermit :
    (∃ (contexts : List Context) (one : Context) (after last : World Store),
      (inDocument.resolve contacts).Returns Store.client secluded (.list (contexts.map .node))
        after ∧
      (inDocument.resolve (contactOf hermit)).Returns Store.client after (.node one) last ∧
      ∃ listed ∈ contexts, one = listed.inGraph one.graph ∧
        last.graph one.graph = last.graph listed.graph) ∧
    ∃ (contexts : List Context) (one : Context) (after last : World Store),
      (resolver.resolve contacts).Returns Store.client secluded (.list (contexts.map .node)) after ∧
      (resolver.resolve (contactOf hermit)).Returns Store.client after (.node one) last ∧
      ∃ listed ∈ contexts, one.ReadsWithin resolver last listed := by
  have collects : contacts.Collects "Contact" := ⟨by decide, rfl, rfl, rfl, rfl, rfl⟩
  have finds : (contactOf hermit).Finds "Contact" hermit := ⟨by decide, rfl, rfl, rfl⟩
  have isAbsolute : Iri.isAbsolute hermit = true := by decide
  constructor
  · obtain ⟨contexts, after, ran, agrees⟩ := (queries_agree collects
      (show inDocument.classOf "Contact" = .ok person from rfl)
      (show inDocument.target person = .ok document from rfl)).1
      (show secluded.resources.kindOf document = .ok .document from rfl)
    have lists : ((inDocument.resolve contacts).runIn Store.client secluded).1.toOption.map
        (·.listsSubject (.iri hermit)) = some true := by
      decide +kernel
    rw [show (inDocument.resolve contacts).runIn Store.client secluded = _ from ran] at lists
    obtain ⟨listed, mem, subject⟩ := exists_of_listsSubject (Option.some.inj lists)
    obtain ⟨answer, last, answered, found_iff, same⟩ :=
      agrees hermit (contactOf hermit) isAbsolute finds
    obtain ⟨one, rfl⟩ := found_iff.1 ⟨listed, mem, subject⟩
    exact ⟨contexts, one, after, last, ran, answered, listed, mem, same listed mem subject one rfl⟩
  · have agrees := (queries_agree collects
      (show resolver.classOf "Contact" = .ok person from rfl)
      (show resolver.target person = .ok AddressBook.container from rfl)).2
      (show secluded.resources.kindOf AddressBook.container = .ok .container from rfl)
      (by unfold Slashed; decide) documentsOwn_secluded
    have lists : ((resolver.resolve contacts).runIn Store.client secluded).1.toOption.map
        (·.listsSubject (.iri hermit)) = some true := by
      decide +kernel
    rcases ran : (resolver.resolve contacts).runIn Store.client secluded with ⟨_ | answer, after⟩
    · rw [ran] at lists
      cases lists
    · rw [ran] at lists
      obtain ⟨contexts, rfl, agrees⟩ := agrees answer after ran
      obtain ⟨listed, mem, subject⟩ := exists_of_listsSubject (Option.some.inj lists)
      obtain ⟨one, last, answered, within⟩ :=
        agrees listed mem hermit (contactOf hermit) subject isAbsolute finds
      exact ⟨contexts, one, after, last, ran, answered, listed, mem, within⟩

end LinkedShapes.Resolution
