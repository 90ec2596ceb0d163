import LinkedShapes.Proofs.BlankScope
import LinkedShapes.Proofs.Confinement
import LinkedShapes.Proofs.Relinking
import LinkedShapes.Proofs.Rereading

/-!
# Reading a link that was made

A link is made whether or not anything is known of the entity that it leads to. A relation that is read
shows the entities only that the graph at hand states to be of its class, and making a link states nothing
of the kind. So a link is shown if the document of the entity that has it tells the class of the other one.
An entity that is kept in a document of its own is linked and not shown, although it can be looked up.

## Main statements

* `Resolved.Shows`: a value is or lists the entity of an IRI.
* `exists_shows_iff`: which of its objects a relation shows.
* `Request.MutatesEntity.linked`: what a link that is made changes.
* `link_read_back_iff`: when a link is shown afterwards.
-/

namespace LinkedShapes.Resolution

open Rdf Ldp Schema Attempt

/-! ### What a relation shows -/

/-- The value is the entity of an IRI, or a list with it, and the IRI is its identifier. -/
def Resolved.Shows (value : Resolved) (iri : String) : Prop :=
  ∃ place found, value.entityAt place = some found ∧ found.subject = some (.iri iri) ∧
    found.identifier? = some iri

/-- Every one of the entities of a list has a place. Where there is no list, there must be no other one. -/
theorem exists_entityAt_of_mem {α : Type} {items : List α} {entity : α → Context} {list : Bool} {a : α}
    (mem : a ∈ items) (alone : list = false → ∀ b ∈ items, b = a) :
    ∃ place, (Resolved.ofItems (items.map fun b => .node (entity b)) list).entityAt place =
      some (entity a) := by
  cases list with
  | true =>
    obtain ⟨place, there⟩ := List.mem_iff_getElem?.1 mem
    exact ⟨place, by simp [Resolved.ofItems, Resolved.entityAt, there]⟩
  | false =>
    cases items with
    | nil => cases mem
    | cons first rest =>
      obtain rfl := alone rfl first List.mem_cons_self
      exact ⟨0, rfl⟩

section Reading

variable {σ : Type} {client : Client σ} {world after : World σ} {resolver : Resolver}
  {reading : Request} {context : Context} {node : Node} {property cls iri : String}

/-- A relation shows an object if the graph states it to be of the class of the relation. Where one value is
read, it must be the only object. -/
theorem exists_shows_iff (stands : reading.field.property? = some property)
    (entities : reading.field.type.scalar? = none)
    (ofClass : resolver.definition.classOf? reading.field.type.name = some cls)
    (parent : reading.parent = some context) (subject : context.subject = some node)
    (isAbsolute : Iri.isAbsolute iri = true)
    (linked : (⟨node, property, .iri iri⟩ : Triple) ∈ world.graph context.graph)
    (alone : reading.field.type.list = false → ∀ object,
      (⟨node, property, object⟩ : Triple) ∈ world.graph context.graph → object = .iri iri) :
    ∃ shown, (resolver.resolve reading).Returns client world shown world ∧
      (shown.Shows iri ↔ Graph.typing (.iri iri) cls ∈ world.graph context.graph) := by
  refine ⟨_, returns_links stands entities parent subject rfl, ?_⟩
  rw [ofClass]
  constructor
  · rintro ⟨place, found, led, isFound, -⟩
    obtain ⟨n, mem, rfl⟩ := mem_of_entityAt led
    rw [Context.subject_entity, Option.some.injEq] at isFound
    subst isFound
    exact (mem_linkedNodes.1 mem).2 cls rfl
  · intro typed
    have mem : Node.iri iri ∈ linkedNodes (world.graph context.graph) node property (some cls) := by
      refine mem_linkedNodes.2 ⟨linked, fun c same => ?_⟩
      rwa [← Option.some.inj same]
    have only (one : reading.field.type.list = false) :
        ∀ n ∈ linkedNodes (world.graph context.graph) node property (some cls), n = .iri iri :=
      fun n mem => Term.node.inj (alone one _ (mem_linkedNodes.1 mem).1)
    obtain ⟨place, led⟩ := exists_entityAt_of_mem mem only
    refine ⟨place, _, led, context.subject_entity _, ?_⟩
    rw [Context.identifier?, Context.subject_entity, Option.map_some,
      identifierOf_iri_of_isAbsolute isAbsolute]

end Reading

/-! ### Making a link -/

section Links

variable {σ : Type} {client : Client σ} {world after : World σ} {resolver : Resolver}
  {linking : Request} {context : Context} {answer : Resolved}
  {subject property typeName cls iri : String} {field : Field}

theorem property?_of_relation (relation : linking.relation resolver = .ok (field, property)) :
    field.property? = some property := by
  unfold Request.relation changedRelation at relation
  split at relation
  · split at relation
    · cases relation
    · dsimp only at relation
      split at relation
      · cases relation
      · split at relation
        · cases relation
        · rename_i stands
          cases relation
          exact stands
  · cases relation

/-- A change of a relation is answered with the entity that has the relation. -/
theorem Request.MutatesEntity.answer_eq {change : RelationChange}
    (changes : linking.MutatesEntity (.relation change) context subject)
    (ran : (resolver.resolve linking).Returns client world answer after) :
    answer = .node context.afterMutation := by
  rw [resolve_of_mutates changes.mutates] at ran
  obtain ⟨_, _, _, _, -, -, -, answer⟩ :=
    exists_patch_of_returns_changeRelation changes.parent changes.named ran
  exact answer

/-- A link that is made is in the graph, and takes the place of all others if there is no list. What is
told of other entities, or by other properties, is as it was. -/
theorem Request.MutatesEntity.linked
    (links : linking.MutatesEntity (.relation .link) context subject)
    (there : context.graph < world.graphs.size)
    (named : identifierArgument linking context.url = .ok iri)
    (ran : (resolver.resolve linking).Returns client world answer after) :
    ∃ field property, linking.relation resolver = .ok (field, property) ∧
      (⟨.iri subject, property, .iri iri⟩ : Triple) ∈ after.graph context.graph ∧
      (field.type.list = false → ∀ object,
        (⟨.iri subject, property, object⟩ : Triple) ∈ after.graph context.graph →
          object = .iri iri) ∧
      ∀ t : Triple, t.subject ≠ .iri subject ∨ t.predicate ≠ property →
        (t ∈ after.graph context.graph ↔ t ∈ world.graph context.graph) := by
  obtain ⟨field, property, child, objects, stated, relation, relinks, relinked, -⟩ :=
    links.relinked there ran
  refine ⟨field, property, relation, ?_⟩
  have other (t : Triple) (outside : t.subject ≠ .iri subject ∨ t.predicate ≠ property) :
      t ∈ after.graph context.graph ↔ t ∈ world.graph context.graph ∨ t ∈ stated :=
    relinked.other t outside
  cases relinks with
  | linkToList list names =>
    obtain rfl := Except.ok.inj (named.symm.trans names)
    have objects := relinked.replaced nofun
    refine ⟨?_, fun one => ?_, fun t outside => (other t outside).trans (or_iff_left id)⟩
    · rw [← Graph.mem_objects, objects]
      exact Set.mem_insert _ _
    · rw [list] at one
      cases one
  | linkToOne one names =>
    obtain rfl := Except.ok.inj (named.symm.trans names)
    have objects := relinked.replaced nofun
    refine ⟨?_, fun _ object mem => ?_, fun t outside => (other t outside).trans (or_iff_left id)⟩
    · rw [← Graph.mem_objects, objects]
      exact Set.mem_singleton _
    · rwa [← Graph.mem_objects, objects] at mem
  | remove removes => simp at removes

end Links

/-! ### Reading it back -/

section Entries

variable {start world last : World Store} {resolver : Resolver} {mutating query : Request}
  {context found : Context} {typeName cls iri : String}

/-- An entity that was looked up to be changed is read from what its document holds. -/
theorem graphOf_of_returns_mutate (mutates : mutating.Mutates .mutate)
    (ran : (resolver.resolve mutating).Returns Store.client start (.node context) world) :
    start.resources.graphOf context.url = .ok (world.graph context.graph) := by
  rw [resolve_of_mutates mutates] at ran
  obtain ⟨cls, ofClass, entered⟩ := returns_lift_bind.1 ran
  obtain ⟨target, kept, -⟩ := returns_lift_bind.1 entered
  obtain ⟨iri, -, found, looked, answer⟩ := (returns_mutate_iff ofClass kept).1 ran
  cases found with
  | none => cases answer
  | some found =>
    obtain rfl := Resolved.node.inj answer
    obtain ⟨kind, graph, -, held, -, rfl, rfl⟩ := returns_lookUpInstance_some_iff.1 looked
    rw [held, World.graph_of_push rfl]

/-- An entity that is found by an absolute IRI is of the class in the document that it is found in. -/
theorem typing_of_found (finds : query.Finds typeName iri)
    (ofClass : resolver.classOf typeName = .ok cls) (isAbsolute : Iri.isAbsolute iri = true)
    (ran : (resolver.resolve query).Returns Store.client start (.node found) last) :
    ∃ document, start.resources.graphOf found.url = .ok document ∧
      Graph.typing (.iri iri) cls ∈ document := by
  obtain ⟨cls', target, iri', found?, ofClass', named, looked, answer⟩ :=
    exists_lookUp_of_returns finds ran
  obtain rfl := Except.ok.inj (ofClass.symm.trans ofClass')
  obtain rfl : iri = iri' :=
    Except.ok.inj ((parseIdentifier_of_isAbsolute isAbsolute _ _).symm.trans named)
  cases found? with
  | none => cases answer
  | some found =>
    obtain rfl := Resolved.node.inj answer
    obtain ⟨kind, document, -, held, typed, rfl, -⟩ := returns_lookUpInstance_some_iff.1 looked
    exact ⟨document, held, typed⟩

end Entries

/-- A link that is made is shown by its relation if and only if the graph that the relation is read from
states the other entity to be of the class of the relation. Unless the link itself could state so, it is
what the graph stated before. Where the entity was looked up just before the link, this is what its document
states. So the link is shown if the other entity is found in the same document. -/
theorem link_read_back_iff {world after : World Store} {resolver : Resolver} {linking : Request}
    {context : Context} {answer : Resolved} {subject id : String}
    (links : linking.MutatesEntity (.relation .link) context subject)
    (there : context.graph < world.graphs.size)
    (given : linking.argument? identifierField = some (.string id))
    (isAbsolute : Iri.isAbsolute id = true)
    (ran : (resolver.resolve linking).Returns Store.client world answer after) :
    answer = .node context.afterMutation ∧
    ∃ field property, linking.relation resolver = .ok (field, property) ∧
      ∀ (reading : Request) (cls : String), reading.field = field →
        reading.parent = some context.afterMutation → field.type.scalar? = none →
        resolver.classOf field.type.name = .ok cls →
        ∃ shown, (resolver.resolve reading).Returns Store.client after shown after ∧
          (shown.Shows id ↔ Graph.typing (.iri id) cls ∈ after.graph context.graph) ∧
          (id ≠ subject ∨ property ≠ RdfSyntax.type →
            (shown.Shows id ↔ Graph.typing (.iri id) cls ∈ world.graph context.graph) ∧
            ∀ (start : World Store) (mutating : Request), mutating.Mutates .mutate →
              (resolver.resolve mutating).Returns Store.client start (.node context) world →
              (shown.Shows id ↔ ∃ document, start.resources.graphOf context.url = .ok document ∧
                Graph.typing (.iri id) cls ∈ document) ∧
              ∀ (query : Request) (found : Context) (last : World Store),
                query.Finds field.type.name id →
                (resolver.resolve query).Returns Store.client start (.node found) last →
                found.url = context.url → shown.Shows id) := by
  refine ⟨links.answer_eq ran, ?_⟩
  have named : identifierArgument linking context.url = .ok id :=
    identifierArgument_eq_ok_iff.2 ⟨id, given, absolute_of_isAbsolute isAbsolute _, isAbsolute⟩
  obtain ⟨field, property, relation, linked, alone, kept⟩ := links.linked there named ran
  refine ⟨field, property, relation, ?_⟩
  rintro reading cls rfl parent entities ofClass
  obtain ⟨shown, read, shows⟩ := exists_shows_iff (property?_of_relation relation) entities
    (classOf?_of_classOf ofClass) parent links.named isAbsolute linked alone
  refine ⟨shown, read, shows, fun outside => ?_⟩
  have before : shown.Shows id ↔ Graph.typing (.iri id) cls ∈ world.graph context.graph :=
    shows.trans (kept _ (outside.imp (fun different same => different (Node.iri.inj same)) Ne.symm))
  refine ⟨before, fun start mutating mutates opened => ?_⟩
  have held := graphOf_of_returns_mutate mutates opened
  have stated : shown.Shows id ↔ ∃ document, start.resources.graphOf context.url = .ok document ∧
      Graph.typing (.iri id) cls ∈ document := by
    rw [before, held]
    simp
  refine ⟨stated, fun query found last finds foundIn same => ?_⟩
  exact stated.2 (same ▸ typing_of_found finds ofClass isAbsolute foundIn)

open AddressBook

/-- Two contacts in one document, and one in another document of the same container. -/
def strangers : World Store where
  resources := ((Store.empty.addContainer AddressBook.container).addTriples document
    [Graph.typing (.iri adaIri) person, Graph.typing (.iri eve) person]).addTriples joeDocument
    (joeTriples [])
  names := { draw := fun _ => 0 }

/-- The contact in the other document. -/
def neighbour : String := "http://example.org/contacts/joe#joe"

/-- The look-up of a contact to change. -/
def adaOpening : Request :=
  field mutationType "mutateContact" [(identifierField, .string adaIri)] none

/-- What there is after the look-up. -/
def adaOpened : World Store := resolver.settle Store.client strangers adaOpening

theorem returns_adaOpening :
    (resolver.resolve adaOpening).Returns Store.client strangers (.node ada) adaOpened := rfl

/-- The query for a contact. -/
def finding (id : String) : Request := field queryType "contact" [(identifierField, .string id)] none

/-- The link of the contact to another one. -/
def meeting (id : String) : Request :=
  field "ContactMutation" "linkKnows" [(identifierField, .string id)] (some ada)

/-- What there is after the link. -/
def met (id : String) : World Store := resolver.settle Store.client adaOpened (meeting id)

/-- Those whom the contact is read to know afterwards. -/
def acquaintances : Request := field "Contact" "knows" [] (some ada.afterMutation)

/-- A contact in the same document is known. -/
theorem link_read_back_iff_eve :
    (resolver.resolve adaOpening).Returns Store.client strangers (.node ada) adaOpened ∧
      (resolver.resolve (meeting eve)).Returns Store.client adaOpened (.node ada.afterMutation)
        (met eve) ∧
      ∃ shown, (resolver.resolve acquaintances).Returns Store.client (met eve) shown (met eve) ∧
        shown.Shows eve := by
  have ran : (resolver.resolve (meeting eve)).Returns Store.client adaOpened
      (.node ada.afterMutation) (met eve) := rfl
  refine ⟨returns_adaOpening, ran, ?_⟩
  obtain ⟨-, field, property, relation, reads⟩ :=
    link_read_back_iff ⟨⟨rfl, rfl, by decide, rfl⟩, rfl, rfl⟩
      (show ada.graph < adaOpened.graphs.size by decide +kernel) rfl (by decide +kernel) ran
  obtain ⟨rfl, rfl⟩ : knows = field ∧ "http://schema.org/knows" = property :=
    Prod.mk.inj (Except.ok.inj relation)
  obtain ⟨shown, read, -, stated⟩ := reads acquaintances person rfl rfl rfl rfl
  obtain ⟨-, ofOpening⟩ := stated (.inl (by decide))
  obtain ⟨-, shows⟩ := ofOpening strangers adaOpening ⟨rfl, rfl, by decide, rfl⟩ returns_adaOpening
  have found : (resolver.resolve (finding eve)).Returns Store.client strangers
      (.node (.lookedUp eve 0)) (resolver.settle Store.client strangers (finding eve)) := rfl
  have sameDocument : (Context.lookedUp eve 0).url = ada.url := by decide +kernel
  exact ⟨shown, read, shows _ _ _ ⟨by decide, by decide, rfl, rfl⟩ found sameDocument⟩

/-- A contact in another document is found there, and is linked, but not known. -/
theorem linked_not_shown :
    Iri.isAbsolute neighbour = true ∧
    (meeting neighbour).relation resolver = .ok (acquaintances.field, "http://schema.org/knows") ∧
    (∃ found last, (resolver.resolve (finding neighbour)).Returns Store.client strangers (.node found)
        last ∧
      found.identifier? = some neighbour) ∧
    (resolver.resolve adaOpening).Returns Store.client strangers (.node ada) adaOpened ∧
    (resolver.resolve (meeting neighbour)).Returns Store.client adaOpened (.node ada.afterMutation)
      (met neighbour) ∧
    ∃ shown, (resolver.resolve acquaintances).Returns Store.client (met neighbour) shown
        (met neighbour) ∧
      ¬ ∃ place found, shown.entityAt place = some found ∧ found.identifier? = some neighbour := by
  refine ⟨by decide +kernel, rfl, ⟨.lookedUp neighbour 0, _, rfl, by decide +kernel⟩,
    returns_adaOpening, rfl, _,
    returns_links (show knows.property? = some "http://schema.org/knows" from rfl) rfl rfl rfl rfl, ?_⟩
  rintro ⟨place, found, led, -⟩
  obtain ⟨n, mem, -⟩ := mem_of_entityAt led
  have none : linkedNodes ((met neighbour).graph ada.graph) (.iri adaIri) "http://schema.org/knows"
      (some person) = [] := by
    decide +kernel
  exact absurd (none ▸ mem : n ∈ []) List.not_mem_nil

end LinkedShapes.Resolution
