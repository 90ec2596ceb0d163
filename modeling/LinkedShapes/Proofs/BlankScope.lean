import LinkedShapes.Proofs.Agreement

/-!
# Blank nodes in a collection

A blank node is known by a label only, which any document may use for a node of its own. In the union of
the documents that a container lists a label stands for one node, whichever documents it comes from. A
blank node that an entity is linked to in its document is so read from the collection with its own
values and with those that the other documents give their nodes of the same label: it reads the same
from the collection and from the document if and only if no other document gives the label a value
more.

## Main statements

* `scalarValues_eq_iff_saysNoMore`: when a document and the union of all give a node the same values.
* `blank_reads_same_iff`: when a blank node reads the same from the collection as from its document.
* `blank_merged_friend`: two documents with one label, whose nodes are read as one.
-/

namespace LinkedShapes.Resolution

open Rdf Ldp Schema Attempt

/-! ### Labels that several documents use -/

/-- No document that a container lists gives a node a readable value under a predicate that a document
does not give it. -/
def SaysNoMore (store : Store) (container : String) (document : Graph) (node : Node)
    (property : String) (scalar : Scalar) : Prop :=
  ∀ url, ListedIn store container url → ∀ other, store.graphOf url = .ok other →
    ∀ object, (scalar.read? object).isSome = true →
      ⟨node, property, object⟩ ∈ other → ⟨node, property, object⟩ ∈ document

section Labels

variable {store : Store} {target url property : String} {union document : Graph} {node : Node}
  {scalar : Scalar}

/-- A listed document and the union of all of them give a node the same values if and only if no listed
document gives it a value more. -/
theorem scalarValues_eq_iff_saysNoMore (gathered : Gathered store target .container union)
    (listed : ListedIn store target url) (held : store.graphOf url = .ok document) :
    scalarValues union node property scalar = scalarValues document node property scalar ↔
      SaysNoMore store target document node property scalar := by
  have part (t : Triple) : t ∈ document → t ∈ union := gathered.mem_of_mem listed held
  constructor
  · intro same other listed' found there object readable mem
    exact mem_of_scalarValues_eq (fun o _ => part _) same readable
      (gathered.mem_of_mem listed' there mem)
  · intro noMore
    refine scalarValues_congr fun object readable => ⟨fun mem => ?_, part _⟩
    obtain ⟨other, listed', found, there, mem⟩ := (gathered _).1 mem
    exact noMore other listed' found there object readable mem

theorem map_scalar_injective : Function.Injective (List.map Resolved.scalar) :=
  List.map_injective_iff.2 fun _ _ same => Resolved.scalar.inj same

end Labels

/-! ### Blank nodes that an entity leads to -/

section Children

variable {world after last : World Store} {resolver : Resolver} {request query : Request}
  {typeName iri identifier cls target : String} {contexts : List Context}
  {listed one child : Context} {union document : Graph} {node : Node} {ref : GraphRef}

/-- A field that was answered with an entity found it by the IRI that the identifier names. -/
theorem exists_lookUpInstance_of_returns (finds : query.Finds typeName identifier)
    (ofClass : resolver.classOf typeName = .ok cls) (kept : resolver.target cls = .ok target)
    (ran : (resolver.resolve query).Returns Store.client world (.node one) after) :
    ∃ iri, (lookUpInstance cls target (.iri iri)).Returns Store.client world (some one) after := by
  cases names : parseIdentifier (.string identifier) identifierField target with
  | ok iri =>
    obtain ⟨found, ran, answer⟩ := (returns_instance_iff finds ofClass kept names).1 ran
    cases found with
    | none => cases answer
    | some context =>
      obtain rfl := Resolved.node.inj answer
      exact ⟨iri, ran⟩
  | error cause =>
    rw [resolve_of_query finds.entry finds.query] at ran
    rw [← finds.type] at ofClass
    have ran := (returns_lift_bind_of_eq kept).1 ((returns_lift_bind_of_eq ofClass).1 ran)
    simp only [finds.named, names] at ran
    obtain ⟨_, _, ran, -⟩ := returns_bind.1 ran
    cases (returns_lift.1 ran).1

/-- A field of scalars reads a node from its document and from the union. It has the same value if no
listed document gives the node a value more, and a list has the same values only then. -/
theorem returns_scalars_of_listed {read : Request} {scalar : Scalar} {property url : String}
    (gathered : Gathered world.resources target .container union)
    (inListing : ListedIn world.resources target url)
    (held : world.resources.graphOf url = .ok document)
    (subject : child.subject = some node) (copy : last.graph child.graph = document)
    (shared : last.graph ref = union) (stands : read.field.property? = some property)
    (scalars : read.field.type.scalar? = some scalar) :
    ∃ own all,
      (resolver.resolve (read.ofEntity child)).Returns Store.client last own last ∧
      (resolver.resolve (read.ofEntity (child.inGraph ref))).Returns Store.client last all last ∧
      (SaysNoMore world.resources target document node property scalar → all = own) ∧
      (read.field.type.list = true → all = own →
        SaysNoMore world.resources target document node property scalar) := by
  have agree : scalarValues union node property scalar = scalarValues document node property scalar ↔
      SaysNoMore world.resources target document node property scalar :=
    scalarValues_eq_iff_saysNoMore gathered inListing held
  refine ⟨_, _, returns_scalars stands scalars rfl subject copy,
    returns_scalars stands scalars rfl subject shared, fun noMore => ?_, fun list same => ?_⟩
  · rw [agree.2 noMore]
    rfl
  · refine agree.1 (map_scalar_injective ?_)
    simpa [Request.ofEntity, Resolved.ofItems, list] using same

/-- A listed entity that is found by an identifier is read from its document, and the listed one from the
union. -/
theorem Collected.read_of_found (resolver : Resolver)
    (collected : Collected world after cls target .container union contexts)
    (own : ListsOwn world.resources target) (mem : listed ∈ contexts)
    (subject : listed.subject = some (.iri iri))
    (looked : (lookUpInstance cls target (.iri iri)).Returns Store.client after (some one) last) :
    ∃ document, ListedIn world.resources target (documentUrl iri) ∧
      world.resources.graphOf (documentUrl iri) = .ok document ∧
      one = listed.inGraph one.graph ∧ last.graph one.graph = document ∧
      last.graph listed.graph = union ∧ one.ReadsWithin resolver last listed := by
  obtain ⟨typed, equal⟩ := (collected.mem_iff subject).1 mem
  obtain ⟨document, inListing, held, about⟩ := collected.gathered.exists_document own typed
  obtain ⟨kind, graph, isKind, there, -, rfl, left⟩ := returns_lookUpInstance_some_iff.1 looked
  obtain rfl : .container = kind :=
    Except.ok.inj (collected.isKind.symm.trans (collected.asked.kindOf.symm.trans isKind))
  obtain rfl : document = graph :=
    Except.ok.inj (held.symm.trans (collected.asked.graphOf.symm.trans there))
  have pushed : last.graphs = after.graphs.push document := congrArg World.graphs left
  have older : world.graphs.size < after.graphs.size := by
    rw [collected.graphs, Array.size_push]
    exact Nat.lt_succ_self _
  have copy : last.graph after.graphs.size = document := World.graph_of_push pushed
  have shared : last.graph listed.graph = union := by
    rw [equal]
    exact (World.graph_of_push_of_lt pushed older).trans (World.graph_of_push collected.graphs)
  have within : (listed.inGraph after.graphs.size).ReadsWithin resolver last listed :=
    Context.readsWithin_of_part subject copy shared
      (fun _ => collected.gathered.mem_of_mem inListing held) about
  rw [equal] at within shared ⊢
  exact ⟨document, inListing, held, rfl, copy, shared, within⟩

/-- A blank node that is read from an entity with an IRI, which is found by an identifier and is listed,
in a container whose documents are about IRIs of their own. Where it is in a list it is in that of the
listed entity, too. A field of scalars has the same value there if no listed document gives the label a
value more than the document of the entity, and a list has the same values only then. -/
theorem blank_reads_same_iff (collects : request.Collects typeName)
    (ofClass : resolver.classOf typeName = .ok cls) (kept : resolver.target cls = .ok target)
    (isContainer : world.resources.kindOf target = .ok .container)
    (own : ListsOwn world.resources target)
    (ran : (resolver.resolve request).Returns Store.client world (.list (contexts.map .node)) after)
    (mem : listed ∈ contexts) (subject : listed.subject = some (.iri iri))
    (finds : query.Finds typeName identifier)
    (found : (resolver.resolve query).Returns Store.client after (.node one) last)
    (same : one.subject = some (.iri iri)) :
    ∃ document, world.resources.graphOf (documentUrl iri) = .ok document ∧
      last.graph one.graph = document ∧
      ∀ relation : Request, relation.field.property?.isSome → relation.field.type.scalar? = none →
        ∃ children,
          (resolver.resolve (relation.ofEntity one)).Returns Store.client last children last ∧
          ∀ place child label, children.entityAt place = some child →
            child.subject = some (.blank label) →
            (relation.field.type.list = true → ∃ all : List Context,
              (resolver.resolve (relation.ofEntity listed)).Returns Store.client last
                (.list (all.map .node)) last ∧ child.inGraph listed.graph ∈ all) ∧
            ∀ (read : Request) property scalar, read.field.property? = some property →
              read.field.type.scalar? = some scalar → ∃ own all,
                (resolver.resolve (read.ofEntity child)).Returns Store.client last own last ∧
                (resolver.resolve (read.ofEntity (child.inGraph listed.graph))).Returns
                  Store.client last all last ∧
                (SaysNoMore world.resources target document (.blank label) property scalar →
                  all = own) ∧
                (read.field.type.list = true → all = own →
                  SaysNoMore world.resources target document (.blank label) property scalar) := by
  obtain ⟨contexts', collection, equal⟩ := (returns_collection_iff collects ofClass kept).1 ran
  obtain rfl : contexts = contexts' :=
    List.map_injective_iff.2 (fun _ _ => Resolved.node.inj) (Resolved.list.inj equal)
  obtain ⟨kind, union, collected⟩ := collected_of_returns_lookUpCollection collection
  obtain rfl : .container = kind := Except.ok.inj (isContainer.symm.trans collected.isKind)
  obtain ⟨named, looked⟩ := exists_lookUpInstance_of_returns finds ofClass kept found
  obtain rfl : named = iri := by
    obtain ⟨_, _, -, -, -, rfl, -⟩ := returns_lookUpInstance_some_iff.1 looked
    exact Node.iri.inj (Option.some.inj same)
  obtain ⟨document, inListing, held, moved, copy, shared, within⟩ :=
    collected.read_of_found resolver own mem subject looked
  refine ⟨document, held, copy, fun relation stands entities => ?_⟩
  obtain ⟨property, stands'⟩ := Option.isSome_iff_exists.1 stands
  have children : (resolver.resolve (relation.ofEntity one)).Returns Store.client last _ last :=
    returns_links stands' entities rfl same copy
  refine ⟨_, children, fun place child label led blank => ⟨fun list => ?_, ?_⟩⟩
  · obtain ⟨few, all, read, read', part⟩ := within.relations relation stands entities list
    have answer := Except.ok.inj (congrArg Prod.fst (children.symm.trans read))
    rw [answer] at led
    have led : (Resolved.ofItems (few.map fun a => .node (id a)) true).entityAt place =
      some child := led
    obtain ⟨_, mem, rfl⟩ := mem_of_entityAt led
    exact ⟨all, read', part _ mem⟩
  · intro read property scalar stands scalars
    obtain ⟨n, -, rfl⟩ := mem_of_entityAt led
    have copy : last.graph (one.entity n).graph = document := by
      rw [Context.graph_entity]
      exact copy
    exact returns_scalars_of_listed collected.gathered inListing held blank copy shared stands scalars

end Children

open AddressBook

/-- A contact who knows one without a name. -/
def adaIri : String := "http://example.org/contacts/ada#ada"

/-- What the document of the contact states. -/
def adaTriples : List Triple :=
  [Graph.typing (.iri adaIri) person, ⟨.iri adaIri, "http://schema.org/knows", .blank "friend"⟩,
   Graph.typing (.blank "friend") person,
   ⟨.blank "friend", "http://schema.org/email", .literal (.simple "eve@example.org")⟩]

/-- The document of another contact. -/
def joeDocument : String := "http://example.org/contacts/joe"

/-- What the document of the other contact states, and some triples more. -/
def joeTriples (more : List Triple) : List Triple :=
  Graph.typing (.iri "http://example.org/contacts/joe#joe") person :: more

/-- The store holds the documents of the two contacts. -/
def neighbours (more : List Triple) : World Store where
  resources := ((Store.empty.addContainer AddressBook.container).addTriples document
    adaTriples).addTriples joeDocument (joeTriples more)
  names := { draw := fun _ => 0 }

section Neighbours

variable {more : List Triple} {url : String}

/-- The container of the two contacts has their documents. -/
theorem graphOf_neighbours
    (child : url ∈ (neighbours more).resources.children AddressBook.container) :
    url = document ∧ (neighbours more).resources.graphOf url = .ok (Graph.ofList adaTriples) ∨
    url = joeDocument ∧
      (neighbours more).resources.graphOf url = .ok (Graph.ofList (joeTriples more)) := by
  have different : joeDocument ≠ document := by decide
  have vacant (url : String) :
      (Store.empty.addContainer AddressBook.container).documentOrEmpty url = .empty := rfl
  obtain ⟨there, child⟩ := Store.mem_children.1 child
  rcases there with there | there
  · rcases Store.mem_map_putDocument.1 there with rfl | there
    · refine .inr ⟨rfl, Store.graphOf_of_document rfl ?_⟩
      simp [neighbours, Store.addTriples, different.symm, vacant, Graph.ofList]
    · obtain rfl : url = document := by
        simpa [Store.addContainer, Store.empty] using Store.mem_map_putDocument.1 there
      refine .inl ⟨rfl, Store.graphOf_of_document rfl ?_⟩
      simp [neighbours, Store.addTriples, different, vacant, Graph.ofList]
  · obtain rfl : url = AddressBook.container := List.mem_singleton.1 there
    exact absurd child (by decide)

theorem mem_children_neighbours {listing : Graph}
    (held : (neighbours more).resources.containerGraph AddressBook.container = .ok listing)
    (listed : url ∈ listedDocuments listing) :
    url ∈ (neighbours more).resources.children AddressBook.container := by
  have noContainer : joeDocument ≠ AddressBook.container ∧ document ≠ AddressBook.container := by
    decide
  have vacant : (neighbours more).resources.documentOrEmpty AddressBook.container = .empty := by
    simp only [neighbours, Store.addTriples, Store.documentOrEmpty_put, if_neg noContainer.1,
      if_neg noContainer.2]
    rfl
  refine mem_children_of_mem_listedDocuments held (fun t own => ?_) listed
  rw [vacant] at own
  exact absurd own (Graph.not_mem_empty t)

/-- The container can be read. -/
theorem exists_listing_neighbours (more : List Triple) :
    ∃ listing, (neighbours more).resources.graphOf AddressBook.container = .ok listing := by
  rw [Store.graphOf_of_isContainer rfl]
  refine Store.exists_containerGraph_iff.2 fun url mem => ?_
  rcases List.mem_cons.1 mem with rfl | child
  · decide
  · rcases graphOf_neighbours child with ⟨rfl, -⟩ | ⟨rfl, -⟩ <;> decide

/-- Both documents are listed. -/
theorem listedIn_neighbours (stored : url = document ∨ url = joeDocument) :
    ListedIn (neighbours more).resources AddressBook.container url := by
  obtain ⟨listing, held⟩ := exists_listing_neighbours more
  rw [Store.graphOf_of_isContainer rfl] at held
  have child : url ∈ (neighbours more).resources.children AddressBook.container := by
    refine Store.mem_children.2 ⟨Or.inl ?_, ?_⟩
    · refine Store.mem_map_putDocument.2 (stored.symm.imp_right fun same => ?_)
      exact Store.mem_map_putDocument.2 (Or.inl same)
    · rcases stored with rfl | rfl <;> decide
  refine ⟨listing, held, mem_listedDocuments_of_mem_children held child ?_⟩
  rcases stored with rfl | rfl <;> decide

/-- What is listed are the two documents. -/
theorem graphOf_of_listedIn_neighbours
    (listed : ListedIn (neighbours more).resources AddressBook.container url) :
    url = document ∧ (neighbours more).resources.graphOf url = .ok (Graph.ofList adaTriples) ∨
    url = joeDocument ∧
      (neighbours more).resources.graphOf url = .ok (Graph.ofList (joeTriples more)) := by
  obtain ⟨listing, held, listed⟩ := listed
  exact graphOf_neighbours (mem_children_neighbours held listed)

/-- The document of the first contact. -/
theorem graphOf_documentUrl_neighbours (more : List Triple) :
    ListedIn (neighbours more).resources AddressBook.container (documentUrl adaIri) ∧
      (neighbours more).resources.graphOf (documentUrl adaIri) = .ok (Graph.ofList adaTriples) := by
  have listed : ListedIn (neighbours more).resources AddressBook.container document :=
    listedIn_neighbours (Or.inl rfl)
  rw [show documentUrl adaIri = document by decide]
  rcases graphOf_of_listedIn_neighbours listed with ⟨-, holds⟩ | ⟨same, -⟩
  · exact ⟨listed, holds⟩
  · exact absurd same (by decide)

/-- The documents are about IRIs of their own, if what is stated more is about the blank node. -/
theorem listsOwn_neighbours (blank : ∀ t ∈ more, t.subject = .blank "friend") :
    ListsOwn (neighbours more).resources AddressBook.container := by
  intro url listed found there t mem iri subject
  rcases graphOf_of_listedIn_neighbours listed with ⟨rfl, holds⟩ | ⟨rfl, holds⟩
  · obtain rfl := Except.ok.inj (holds.symm.trans there)
    have subjects : ∀ t ∈ adaTriples, t.subject = .iri adaIri ∨ t.subject = .blank "friend" := by
      decide
    rcases subjects t (Graph.mem_ofList.1 mem) with known | known
    · obtain rfl := Node.iri.inj (known.symm.trans subject)
      decide
    · cases known.symm.trans subject
  · obtain rfl := Except.ok.inj (holds.symm.trans there)
    rcases List.mem_cons.1 (Graph.mem_ofList.1 mem) with rfl | stated
    · obtain rfl := Node.iri.inj subject
      decide
    · cases (blank t stated).symm.trans subject

/-- All contacts are answered, the first one is among them, and is found. -/
theorem contacts_neighbours (more : List Triple) :
    ∃ (contexts : List Context) (listed : Context) (ref : GraphRef) (after last : World Store)
      (union : Graph),
      Collected (neighbours more) after person AddressBook.container .container union contexts ∧
      (resolver.resolve contacts).Returns Store.client (neighbours more) (.list (contexts.map .node))
        after ∧
      listed ∈ contexts ∧ listed.subject = some (.iri adaIri) ∧
      (resolver.resolve (contactOf adaIri)).Returns Store.client after (.node (listed.inGraph ref))
        last ∧
      last.graph ref = Graph.ofList adaTriples ∧ last.graph listed.graph = union := by
  have collects : contacts.Collects "Contact" := ⟨by decide, rfl, rfl, rfl, rfl, rfl⟩
  have finds : (contactOf adaIri).Finds "Contact" adaIri := ⟨by decide, rfl, rfl, rfl⟩
  have ofClass : resolver.classOf "Contact" = .ok person := rfl
  have kept : resolver.target person = .ok AddressBook.container := rfl
  have isContainer : (neighbours more).resources.isContainer AddressBook.container = true := rfl
  have isKind := Store.kindOf_of_isContainer isContainer
  obtain ⟨listing, held⟩ := exists_listing_neighbours more
  have listing_held : (neighbours more).resources.containerGraph AddressBook.container =
      .ok listing := (Store.graphOf_of_isContainer isContainer).symm.trans held
  obtain ⟨contexts, after, found⟩ := exists_returns_lookUpCollection person isKind held
    fun _ url listed => by
      rcases graphOf_neighbours (mem_children_neighbours listing_held listed) with h | h
      · exact ⟨_, h.2⟩
      · exact ⟨_, h.2⟩
  obtain ⟨kind, union, collected⟩ := collected_of_returns_lookUpCollection found
  obtain rfl : .container = kind := Except.ok.inj (isKind.symm.trans collected.isKind)
  obtain ⟨inListing, holds⟩ := graphOf_documentUrl_neighbours more
  have typed : Graph.typing (.iri adaIri) person ∈ Graph.ofList adaTriples :=
    Graph.mem_ofList.2 List.mem_cons_self
  have gathered := collected.gathered.mem_of_mem inListing holds typed
  let listed : Context :=
    { subject := some (.iri adaIri), graph := (neighbours more).graphs.size, kind := .container,
      url := lookUpUrl .container AddressBook.container (.iri adaIri) }
  have subject : listed.subject = some (.iri adaIri) := rfl
  have mem : listed ∈ contexts := (collected.mem_iff subject).2 ⟨gathered, rfl⟩
  have isAbsolute : Iri.isAbsolute adaIri = true := by decide
  obtain ⟨ref, last, answered, graphs⟩ :=
    collected.returns_instance ofClass kept holds typed mem subject isAbsolute finds
  exact ⟨contexts, listed, ref, after, last, union, collected,
    (returns_collection_iff collects ofClass kept).2 ⟨contexts, found, rfl⟩, mem, subject, answered,
    graphs⟩

/-- A field of a contact. -/
def contactField (name : String) : Request := field "Contact" name [] none

/-- The blank node is the one whom the contact knows. -/
theorem friend_neighbours (one : Context) {last : World Store}
    (subject : one.subject = some (.iri adaIri))
    (copy : last.graph one.graph = Graph.ofList adaTriples) :
    (resolver.resolve ((contactField "knows").ofEntity one)).Returns Store.client last
      (.list [.node (one.entity (.blank "friend"))]) last := by
  have linked : linkedNodes (Graph.ofList adaTriples) (.iri adaIri) "http://schema.org/knows"
      (resolver.definition.classOf? "Contact") = [.blank "friend"] := by
    decide +kernel
  have reads : (resolver.resolve ((contactField "knows").ofEntity one)).Returns Store.client last
      (.list (((linkedNodes (Graph.ofList adaTriples) (.iri adaIri) "http://schema.org/knows"
        (resolver.definition.classOf? "Contact")).map one.entity).map .node)) last :=
    returns_links_list rfl rfl rfl rfl subject copy
  rw [linked] at reads
  exact reads

end Neighbours

/-- Where no document says more of the blank node, it reads the same from the collection. -/
theorem blank_reads_same_iff_friend :
    ∃ (listed one child : Context) (after last : World Store) (own all : Resolved),
      (resolver.resolve (contactOf adaIri)).Returns Store.client after (.node one) last ∧
      (resolver.resolve ((contactField "knows").ofEntity one)).Returns Store.client last
        (.list [.node child]) last ∧
      child.subject = some (.blank "friend") ∧
      (resolver.resolve ((contactField "email").ofEntity child)).Returns Store.client last own last ∧
      (resolver.resolve ((contactField "email").ofEntity (child.inGraph listed.graph))).Returns
        Store.client last all last ∧
      all = own := by
  have own : ListsOwn (neighbours []).resources AddressBook.container :=
    listsOwn_neighbours fun t stated => absurd stated List.not_mem_nil
  obtain ⟨contexts, listed, ref, after, last, union, -, ran, mem, subject, found, copy, -⟩ :=
    contacts_neighbours []
  obtain ⟨document, held, -, reads⟩ := blank_reads_same_iff
    (show contacts.Collects "Contact" from ⟨by decide, rfl, rfl, rfl, rfl, rfl⟩)
    (show resolver.classOf "Contact" = .ok person from rfl)
    (show resolver.target person = .ok AddressBook.container from rfl)
    (Store.kindOf_of_isContainer rfl) own ran mem subject
    (show (contactOf adaIri).Finds "Contact" adaIri from ⟨by decide, rfl, rfl, rfl⟩) found subject
  obtain rfl : Graph.ofList adaTriples = document :=
    Except.ok.inj ((graphOf_documentUrl_neighbours []).2.symm.trans held)
  have friend := friend_neighbours (listed.inGraph ref) subject copy
  obtain ⟨children, answered, scope⟩ := reads (contactField "knows") rfl rfl
  obtain rfl : _ = children := Except.ok.inj (congrArg Prod.fst (friend.symm.trans answered))
  obtain ⟨-, scalars⟩ := scope 0 _ "friend" rfl (Context.subject_entity _ _)
  obtain ⟨own, all, read, read', same, -⟩ := scalars (contactField "email")
    "http://schema.org/email" .string rfl rfl
  refine ⟨listed, _, _, after, last, own, all, found, friend, Context.subject_entity _ _, read, read',
    same ?_⟩
  intro url listed other there object readable mem
  rcases graphOf_of_listedIn_neighbours listed with ⟨-, holds⟩ | ⟨-, holds⟩
  · exact Except.ok.inj (there.symm.trans holds) ▸ mem
  · obtain rfl := Except.ok.inj (there.symm.trans holds)
    cases List.mem_singleton.1 (Graph.mem_ofList.1 mem)

/-- What the other document states of a blank node of its own, which has the same label. -/
def sameLabel : List Triple :=
  [⟨.blank "friend", "http://schema.org/email", .literal (.simple "dan@example.org")⟩]

/-- Where another document uses the same label, the blank node is read from the collection with the
address that the other document gives. -/
theorem blank_merged_friend :
    ListsOwn (neighbours sameLabel).resources AddressBook.container ∧
    ∃ (contexts all : List Context) (listed one child : Context) (after last : World Store)
      (own merged : List Json),
      (resolver.resolve contacts).Returns Store.client (neighbours sameLabel)
        (.list (contexts.map .node)) after ∧
      listed ∈ contexts ∧ listed.subject = some (.iri adaIri) ∧
      (resolver.resolve (contactOf adaIri)).Returns Store.client after (.node one) last ∧
      (resolver.resolve ((contactField "knows").ofEntity one)).Returns Store.client last
        (.list [.node child]) last ∧
      child.subject = some (.blank "friend") ∧
      (resolver.resolve ((contactField "knows").ofEntity listed)).Returns Store.client last
        (.list (all.map .node)) last ∧
      child.inGraph listed.graph ∈ all ∧
      (resolver.resolve ((contactField "email").ofEntity child)).Returns Store.client last
        (.list (own.map .scalar)) last ∧
      (resolver.resolve ((contactField "email").ofEntity (child.inGraph listed.graph))).Returns
        Store.client last (.list (merged.map .scalar)) last ∧
      .string "dan@example.org" ∈ merged ∧ .string "dan@example.org" ∉ own := by
  have owned : ListsOwn (neighbours sameLabel).resources AddressBook.container :=
    listsOwn_neighbours fun t stated => by rw [List.mem_singleton.1 stated]
  obtain ⟨contexts, listed, ref, after, last, union, collected, ran, mem, subject, found, copy,
    shared⟩ := contacts_neighbours sameLabel
  obtain ⟨inListing, holds⟩ := graphOf_documentUrl_neighbours sameLabel
  have part (t : Triple) (stated : t ∈ adaTriples) : t ∈ union :=
    collected.gathered.mem_of_mem inListing holds (Graph.mem_ofList.2 stated)
  let child := (listed.inGraph ref).entity (.blank "friend")
  have blank : child.subject = some (.blank "friend") := Context.subject_entity _ _
  have all : (resolver.resolve ((contactField "knows").ofEntity listed)).Returns Store.client last _
      last := returns_links_list rfl rfl rfl rfl subject shared
  have own : (resolver.resolve ((contactField "email").ofEntity child)).Returns Store.client last
      _ last := returns_scalars rfl rfl rfl blank copy
  have merged : (resolver.resolve ((contactField "email").ofEntity
      (child.inGraph listed.graph))).Returns Store.client last _ last :=
    returns_scalars rfl rfl rfl blank shared
  refine ⟨owned, contexts, _, listed, _, child, after, last, _, _, ran, mem, subject, found,
    friend_neighbours _ subject copy, blank, all, ?_, own, merged, ?_, ?_⟩
  · refine List.mem_map.2 ⟨.blank "friend", mem_linkedNodes.2 ⟨part _ (by decide), ?_⟩,
      (entity_inGraph _).symm⟩
    intro c known
    obtain rfl : person = c := Option.some.inj known
    exact part _ (by decide)
  · have listed : ListedIn (neighbours sameLabel).resources AddressBook.container joeDocument :=
      listedIn_neighbours (Or.inr rfl)
    rcases graphOf_of_listedIn_neighbours listed with ⟨same, -⟩ | ⟨-, holds⟩
    · exact absurd same (by decide)
    · refine mem_scalarValues.2 ⟨.literal (.simple "dan@example.org"), ?_, rfl⟩
      exact collected.gathered.mem_of_mem listed holds (Graph.mem_ofList.2 (by decide))
  · intro there
    obtain ⟨object, stated, read⟩ := mem_scalarValues.1 there
    have known : ∀ t ∈ adaTriples, t.predicate = "http://schema.org/email" →
        t.object = .literal (.simple "eve@example.org") := by
      decide
    obtain rfl := known _ (Graph.mem_ofList.1 stated) rfl
    exact absurd (Json.string.inj (Option.some.inj read)) (by decide)

end LinkedShapes.Resolution
