import LinkedShapes.Proofs.Overwriting
import LinkedShapes.Proofs.Rereading
import LinkedShapes.Proofs.WriteThrough

/-!
# New entities in a document

A new entity is made in a document that there is when the instances of its class are kept in a document,
and when it is linked with an entity that there is. Its IRI is minted, and stated in the document by one
patch; the triples of other entities stay, except for the links that are made or replaced. That the
document knows nothing of the IRI is not checked. If it does, then the entity of this IRI, which was there
before, is given the triples of the new one, and is answered without those that it has already.

## Main statements

* `exists_patch_of_returns_changeRelation`: what a change of a relation that is answered has done.
* `Request.MintsIn`: the fields that make a new entity in a document that there is.
* `Request.MintsIn.minted`: what such a field leaves behind.
* `mints_in_document`: what the document then tells of the new entity and of others, and when the answer
  tells the same.
* `create_adds_to_existing`: a creation that changes an entity that was there before.
-/

namespace LinkedShapes.Ldp.Store

/-- What was patched after questions only was patched at once. -/
theorem Asked.patchedAt {before between after : Store} {url : String} {patch : Patch}
    (asked : before.Asked between) (patched : between.PatchedAt after url patch) :
    before.PatchedAt after url patch where
  writes := by rw [patched.writes, asked.writes]
  document t := by
    rw [patched.document, documentOrEmpty, document?, asked.documents, documentOrEmpty, document?]
  otherDocuments other h := by
    rw [patched.otherDocuments other h, document?, asked.documents, document?]
  containers := by rw [patched.containers, asked.containers]

end LinkedShapes.Ldp.Store

namespace LinkedShapes.Resolution

open Rdf Ldp Schema Attempt

/-- A patch that was made in a document and in a graph was made in the document. -/
theorem World.Patched.patchedAt {world after : World Store} {context : Context} {patch : Patch}
    (patched : world.Patched after context patch) :
    world.resources.PatchedAt after.resources context.url patch where
  writes := by simp [Store.writes, patched.calls, Call.isWrite]
  document := patched.document
  otherDocuments := patched.otherDocuments
  containers := patched.containers

/-! ### Relations to new entities -/

/-- The subject and the property that a new entity is linked by, if it is. -/
abbrev Relation := Option (String × String)

namespace Relation

/-- The triple is a link of the relation. -/
def Links (relation : Relation) (triple : Triple) : Prop :=
  ∃ subject property, relation = some (subject, property) ∧ triple.subject = .iri subject ∧
    triple.predicate = property

/-- The triple links an entity by the relation. -/
def LinksTo (relation : Relation) (iri : String) (triple : Triple) : Prop :=
  ∃ subject property, relation = some (subject, property) ∧ triple = linkTriple subject property iri

theorem linksTo_some_iff {subject property iri : String} {triple : Triple} :
    LinksTo (some (subject, property)) iri triple ↔ triple = linkTriple subject property iri := by
  constructor
  · rintro ⟨_, _, same, rfl⟩
    cases same
    rfl
  · rintro rfl
    exact ⟨subject, property, rfl, rfl⟩

theorem not_linksTo_none {iri : String} {triple : Triple} : ¬ LinksTo none iri triple := by
  rintro ⟨_, _, linked, -⟩
  cases linked

theorem LinksTo.links {relation : Relation} {iri : String} {triple : Triple}
    (h : relation.LinksTo iri triple) : relation.Links triple := by
  obtain ⟨subject, property, isRelation, rfl⟩ := h
  exact ⟨subject, property, isRelation, rfl, rfl⟩

end Relation

/-- The field makes a new entity of a type and its class in the document at a URL: where the instances
of the class are kept, or in the document of an entity that gets a link to it by a relation. What is
`known` of the entity until then is what the graph of the answer has. -/
inductive Request.MintsIn (resolver : Resolver) (request : Request) (world : World Store) :
    (typeName cls url : String) → (known : Graph) → Relation → Prop
  /-- The creation of an entity whose class is kept in a document. -/
  | create {cls target : String} (mutates : request.Mutates .create)
      (ofClass : resolver.classOf request.field.type.name = .ok cls)
      (kept : resolver.target cls = .ok target)
      (isKind : world.resources.kindOf target = .ok .document) :
      MintsIn resolver request world request.field.type.name cls target .empty none
  /-- The creation of an entity that is linked with the entity of a context. -/
  | relation {context : Context} {change : RelationChange} {subject property cls : String}
      {field : Field} (parent : request.parent = some context)
      (there : context.graph < world.graphs.size) (named : context.subject = some (.iri subject))
      (mutates : request.Mutates (.relation change)) (makes : change = .set ∨ change = .add)
      (changed : changedRelation resolver request (MutationKind.ofName request.field.name).2 =
        .ok (field, property))
      (ofClass : resolver.classOf field.type.name = .ok cls) :
      MintsIn resolver request world field.type.name cls context.url (world.graph context.graph)
        (some (subject, property))

/-- A new entity was stated in the document of a context by one patch, which was also made in what was
known and so gave the graph of the context. -/
structure World.Minted (world after : World Store) (context : Context) (known : Graph)
    (relation : Relation) (cls : String) (type : InputType) (values : List (String × Json))
    (minted : String) (patch : Patch) : Prop where
  /-- The IRI of the entity is the one that the input names, if it names one. -/
  named : ∀ iri, namedIri? context.url values = some iri → minted = iri
  /-- The IRI is absolute. -/
  isAbsolute : Iri.isAbsolute minted = true
  /-- The patch states the class of the entity, the literals that the input gives and the link. -/
  inserts : ∀ t, t ∈ patch.inserts ↔ t = Graph.typing (.iri minted) cls ∨
    (∃ property literal, type.Gives values property literal ∧
      t = literalTriple minted property literal) ∨ relation.LinksTo minted t
  /-- It deletes links of the relation only. -/
  deletes : ∀ t ∈ patch.deletes, relation.Links t
  /-- It was made in the document. -/
  document : world.resources.PatchedAt after.resources context.url patch
  /-- It was made in what was known. -/
  graph : ∀ t, t ∈ after.graph context.graph ↔
    (t ∈ known ∧ t ∉ patch.deletes) ∨ t ∈ patch.inserts

namespace World.Minted

variable {world after : World Store} {context : Context} {known : Graph} {relation : Relation}
  {cls minted : String} {type : InputType} {values : List (String × Json)} {patch : Patch}

/-- The triples of another entity stay as they were, except for links of the relation. -/
theorem document_of_other
    (made : world.Minted after context known relation cls type values minted patch) {t : Triple}
    (other : t.subject ≠ .iri minted) (unlinked : ¬ relation.Links t) :
    t ∈ after.resources.documentOrEmpty context.url ↔
      t ∈ world.resources.documentOrEmpty context.url := by
  have notInserted : t ∉ patch.inserts := by
    rw [made.inserts]
    rintro (rfl | ⟨_, _, -, rfl⟩ | linked)
    · exact other rfl
    · exact other rfl
    · exact unlinked linked.links
  have notDeleted : t ∉ patch.deletes := fun h => unlinked (made.deletes t h)
  simp [made.document.document, notInserted, notDeleted]

/-- Where the document told nothing of the entity, it tells what was stated. -/
theorem document_of_fresh
    (made : world.Minted after context known relation cls type values minted patch)
    (fresh : ∀ t ∈ world.resources.documentOrEmpty context.url, t.subject ≠ .iri minted)
    {t : Triple} (about : t.subject = .iri minted) :
    t ∈ after.resources.documentOrEmpty context.url ↔ t ∈ patch.inserts := by
  have new : t ∉ world.resources.documentOrEmpty context.url := fun h => fresh t h about
  simp [made.document.document, new]

/-- The graph of the context tells the same of the entity as the document if what was known did, as far
as the patch does not decide. -/
theorem graph_agrees_iff
    (made : world.Minted after context known relation cls type values minted patch) :
    (∀ t, t.subject = .iri minted →
        (t ∈ after.graph context.graph ↔ t ∈ after.resources.documentOrEmpty context.url)) ↔
      ∀ t, t.subject = .iri minted → t ∉ patch.inserts → t ∉ patch.deletes →
        (t ∈ known ↔ t ∈ world.resources.documentOrEmpty context.url) := by
  refine forall_congr' fun t => imp_congr_right fun _ => ?_
  rw [made.graph, made.document.document]
  -- a triple that is inserted is in both, one that is deleted only is in neither
  by_cases inserted : t ∈ patch.inserts
  · simp [inserted]
  · by_cases deleted : t ∈ patch.deletes <;> simp [inserted, deleted]

/-- The document states the class of the entity. -/
theorem typed (made : world.Minted after context known relation cls type values minted patch) :
    Graph.typing (.iri minted) cls ∈ after.resources.documentOrEmpty context.url :=
  (made.document.document _).2 (Or.inr ((made.inserts _).2 (Or.inl rfl)))

end World.Minted

/-- An instance of a class is looked up in a document. -/
def Resolver.LooksUpIn (resolver : Resolver) (store : Store) (cls iri url : String) : Prop :=
  ∃ target kind, resolver.target cls = .ok target ∧ store.kindOf target = .ok kind ∧
    lookUpUrl kind target (.iri iri) = url ∧ store.isContainer url = false

section Fields

variable {world after : World Store} {resolver : Resolver} {request : Request}
  {cls target typeName url : String} {known : Graph} {relation : Relation} {result : Resolved}

/-- A creation in a document states the entity there, and is answered with what it states. -/
theorem returns_create_of_document
    (ofClass : resolver.classOf request.field.type.name = .ok cls)
    (kept : resolver.target cls = .ok target)
    (isKind : world.resources.kindOf target = .ok .document)
    (ran : (create resolver request).Returns Store.client world result after) :
    ∃ type values context minted patch,
      inputObject resolver request = .ok (type, values) ∧
      result = .node context ∧ context.subject = some (.iri minted) ∧ context.url = target ∧
      world.Minted after context .empty none cls type values minted patch := by
  have ran := (returns_lift_bind_of_eq ofClass).1 ran
  have ran := (returns_lift_bind_of_eq kept).1 ran
  obtain ⟨⟨type, values⟩, input, ran⟩ := returns_lift_bind.1 ran
  have ran := (returns_bind_of_returns (returns_kind.2 ⟨isKind, rfl⟩)).1 ran
  obtain ⟨minted, between, mint, ran⟩ := returns_bind.1 ran
  obtain ⟨_, _, named, ran⟩ := returns_bind.1 ran
  obtain ⟨rfl, rfl⟩ := returns_pure.1 named
  obtain ⟨stated, states, ran⟩ := returns_lift_bind.1 ran
  obtain ⟨_, patched, sent, ran⟩ := returns_bind.1 ran
  obtain ⟨ref, _, copied, ran⟩ := returns_bind.1 ran
  obtain ⟨rfl, rfl⟩ := returns_pure.1 ran
  obtain ⟨rfl, rfl⟩ := returns_newGraph.1 copied
  obtain ⟨accepted, rfl⟩ := returns_write.1 sent
  have observes : (mintSubject target values).Observes false := observes_mintSubject target values
  have resources : between.resources = world.resources.note target .kind :=
    observes.resources_eq mint
  have asked : world.resources.Asked between.resources := resources ▸ Store.asked_note rfl
  refine ⟨type, values, _, minted, { inserts := Graph.typing (.iri minted) cls :: stated }, input,
    rfl, rfl, rfl, ?_⟩
  constructor
  case named => exact fun iri => eq_of_returns_mintSubject mint
  case isAbsolute => exact isAbsolute_of_returns_mintSubject mint
  case inserts =>
    intro t
    rw [List.mem_cons, mem_statedTriples states, or_iff_left Relation.not_linksTo_none]
  case deletes => exact fun t h => absurd h List.not_mem_nil
  case document => exact asked.patchedAt (Store.patchedAt_of_accepted accepted)
  case graph =>
    intro t
    rw [World.graph_of_push rfl, Graph.mem_ofList]
    simp [Graph.not_mem_empty]

/-- The patch that links a new entity inserts its class, the literals that the input gives, and the
link. -/
theorem mem_inserts_of_returns_newLinkPatch {σ : Type} {client : Client σ} {world after : World σ}
    {context : Context} {subject property : String} {field : Field} {deletes : List Triple}
    {patch : Patch} (ofClass : resolver.classOf field.type.name = .ok cls)
    (ran : (newLinkPatch resolver request context subject property field deletes).Returns client
      world patch after) :
    ∃ type values minted, inputObject resolver request = .ok (type, values) ∧
      (∀ iri, namedIri? context.url values = some iri → minted = iri) ∧
      Iri.isAbsolute minted = true ∧
      ∀ t, t ∈ patch.inserts ↔ t = Graph.typing (.iri minted) cls ∨
        (∃ property literal, type.Gives values property literal ∧
          t = literalTriple minted property literal) ∨ t = linkTriple subject property minted := by
  have ran := (returns_lift_bind_of_eq ofClass).1 ran
  obtain ⟨⟨type, values⟩, input, ran⟩ := returns_lift_bind.1 ran
  obtain ⟨minted, _, mint, ran⟩ := returns_bind.1 ran
  obtain ⟨stated, states, ran⟩ := returns_lift_bind.1 ran
  obtain ⟨rfl, -⟩ := returns_pure.1 ran
  refine ⟨type, values, minted, input, fun iri => eq_of_returns_mintSubject mint,
    isAbsolute_of_returns_mintSubject mint, fun t => ?_⟩
  rw [Patch.mem_inserts_insert, Patch.mem_inserts_insertAll, Patch.mem_inserts_insert,
    Patch.inserts_deleteAll, mem_statedTriples states, or_assoc, or_assoc]
  exact or_iff_right List.not_mem_nil

/-- A change of a relation that is answered has found the relation, has planned a patch from the links of
the graph, has applied it, and is answered with the entity. -/
theorem exists_patch_of_returns_changeRelation {σ : Type} {client : Client σ} {world after : World σ}
    {context : Context} {change : RelationChange} {subject suffix : String}
    (parent : request.parent = some context) (named : context.subject = some (.iri subject))
    (ran : (changeRelation resolver request change suffix).Returns client world result after) :
    ∃ field property patch between, changedRelation resolver request suffix = .ok (field, property) ∧
      (relationPatch resolver request context subject property field
        ((world.graph context.graph).values (.iri subject) property) change).Returns client world patch
        between ∧
      (applyPatch context patch).Returns client between () after ∧
      result = .node context.afterMutation := by
  have ran := (returns_lift_bind_of_eq (Request.context_of_parent parent)).1 ran
  have ran := (returns_lift_bind_of_eq (namedSubject_of_subject named)).1 ran
  obtain ⟨⟨field, property⟩, changed, ran⟩ := returns_lift_bind.1 ran
  have ran := returns_readGraph_bind.1 ran
  obtain ⟨patch, between, planned, ran⟩ := returns_bind.1 ran
  obtain ⟨_, applied, answer⟩ := returns_bind_pure.1 ran
  exact ⟨field, property, patch, between, changed, planned, applied, answer⟩

/-- A new entity that is linked is stated in the document of the context, and the context is answered. -/
theorem returns_changeRelation_of_new {context : Context} {change : RelationChange}
    {subject property suffix : String} {field : Field} (parent : request.parent = some context)
    (there : context.graph < world.graphs.size) (named : context.subject = some (.iri subject))
    (makes : change = .set ∨ change = .add)
    (changed : changedRelation resolver request suffix = .ok (field, property))
    (ofClass : resolver.classOf field.type.name = .ok cls)
    (ran : (changeRelation resolver request change suffix).Returns Store.client world result after) :
    ∃ type values minted patch,
      inputObject resolver request = .ok (type, values) ∧
      result = .node context.afterMutation ∧
      world.Minted after context.afterMutation (world.graph context.graph)
        (some (subject, property)) cls type values minted patch := by
  obtain ⟨field', property', patch, between, changed', planned, applied, rfl⟩ :=
    exists_patch_of_returns_changeRelation parent named ran
  obtain ⟨rfl, rfl⟩ := Prod.mk.inj (Except.ok.inj (changed.symm.trans changed'))
  have observes : (relationPatch resolver request context subject property field
      ((world.graph context.graph).values (.iri subject) property) change).Observes false :=
    observes_relationPatch resolver request context subject property field _ change
  have resources := observes.resources_eq planned
  have graphs := observes.graphs_eq planned
  have deletes := relationPatch_deletes planned
  -- the two changes differ in the links that they replace, and in nothing that they insert
  obtain ⟨replaced, planned⟩ : ∃ replaced, (newLinkPatch resolver request context subject property
      field replaced).Returns Store.client world patch between := by
    rcases makes with rfl | rfl
    · exact ⟨_, planned⟩
    · exact ⟨_, planned⟩
  obtain ⟨type, values, minted, input, isIri, isAbsolute, inserts⟩ :=
    mem_inserts_of_returns_newLinkPatch ofClass planned
  -- a patch that states a class is sent
  have filled : patch.isEmpty = false := by
    have first : Graph.typing (.iri minted) cls ∈ patch.inserts := (inserts _).2 (Or.inl rfl)
    rw [← Bool.not_eq_true, Patch.isEmpty_iff]
    rintro ⟨none, -⟩
    exact List.not_mem_nil (none ▸ first)
  have patched : world.Patched after context patch :=
    (patched_of_applyPatch (graphs ▸ there) filled applied).of_kept resources graphs
  refine ⟨type, values, minted, patch, input, rfl, ?_⟩
  constructor
  case named => exact isIri
  case isAbsolute => exact isAbsolute
  case inserts =>
    intro t
    rw [inserts, Relation.linksTo_some_iff]
  case deletes =>
    intro t h
    obtain ⟨-, about, along⟩ := Graph.mem_values.1 (deletes t h)
    exact ⟨subject, property, rfl, about, along⟩
  case document => exact patched.patchedAt
  case graph => exact patched.graph

/-- What a field that makes a new entity in a document leaves behind. -/
theorem Request.MintsIn.minted (mints : request.MintsIn resolver world typeName cls url known relation)
    (ran : (resolver.resolve request).Returns Store.client world result after) :
    ∃ type values context minted patch,
      inputObject resolver request = .ok (type, values) ∧
      result = .node context ∧ context.url = url ∧
      (relation = none → context.subject = some (.iri minted)) ∧
      world.Minted after context known relation cls type values minted patch := by
  cases mints with
  | create mutates ofClass kept isKind =>
    rw [resolve_of_mutates mutates] at ran
    obtain ⟨type, values, context, minted, patch, input, answer, subject, url, made⟩ :=
      returns_create_of_document ofClass kept isKind ran
    exact ⟨type, values, context, minted, patch, input, answer, url, fun _ => subject, made⟩
  | relation parent there named mutates makes changed ofClass =>
    rw [resolve_of_mutates mutates] at ran
    obtain ⟨type, values, minted, patch, input, answer, made⟩ :=
      returns_changeRelation_of_new parent there named makes changed ofClass ran
    exact ⟨type, values, _, minted, patch, input, answer, rfl, nofun, made⟩

theorem Request.MintsIn.classOf
    (mints : request.MintsIn resolver world typeName cls url known relation) :
    resolver.classOf typeName = .ok cls := by
  cases mints with
  | create _ ofClass => exact ofClass
  | relation _ _ _ _ _ _ ofClass => exact ofClass

theorem Request.MintsIn.kept
    (mints : request.MintsIn resolver world typeName cls url known relation)
    (unrelated : relation = none) :
    resolver.target cls = .ok url ∧ world.resources.kindOf url = .ok .document := by
  cases mints with
  | create _ _ kept isKind => exact ⟨kept, isKind⟩
  | relation => cases unrelated

end Fields

section LookUps

variable {world after : World Store} {resolver : Resolver} {request query : Request}
  {context : Context} {known : Graph} {relation : Relation} {cls minted typeName url : String}
  {type : InputType} {values : List (String × Json)} {patch : Patch}

/-- An entity that was created in the document where its class is kept is looked up in it. -/
theorem World.Minted.looksUpIn
    (made : world.Minted after context known relation cls type values minted patch)
    (kept : resolver.target cls = .ok context.url)
    (isKind : world.resources.kindOf context.url = .ok .document) :
    resolver.LooksUpIn after.resources cls minted context.url := by
  have noContainer : after.resources.isContainer context.url = false := by
    rw [Store.isContainer, made.document.containers]
    exact (Store.kindOf_eq_document_iff.1 isKind).1
  have there := Store.document?_of_mem made.typed
  refine ⟨context.url, .document, kept, ?_, rfl, noContainer⟩
  exact Store.kindOf_eq_document_iff.2 ⟨noContainer, by rw [there]; rfl⟩

/-- A new entity that is looked up in the document where it was stated is found as the document states
it. -/
theorem World.Minted.finds
    (made : world.Minted after context known relation cls type values minted patch)
    (ofClass : resolver.classOf typeName = .ok cls)
    (looksUp : resolver.LooksUpIn after.resources cls minted context.url)
    (finds : query.Finds typeName minted) :
    ∃ found last, (resolver.resolve query).Returns Store.client after (.node found) last ∧
      found.subject = some (.iri minted) ∧ found.url = context.url ∧
      last.graph found.graph = after.resources.documentOrEmpty context.url := by
  obtain ⟨target, kind, kept, isKind, lookedUp, noContainer⟩ := looksUp
  have held : after.resources.graphOf (lookUpUrl kind target (.iri minted)) =
      .ok (after.resources.documentOrEmpty context.url) := by
    rw [lookedUp]
    exact Store.graphOf_of_document noContainer (Store.document?_of_mem made.typed)
  obtain ⟨last, answered, pushed⟩ :=
    returns_instance_of_typing finds made.isAbsolute ofClass kept isKind held made.typed
  exact ⟨_, last, answered, rfl, lookedUp, World.graph_of_push pushed⟩

end LookUps

/-- A new entity is stated in a document by one patch, and the triples of others stay, except for links
of the relation. Where the document told nothing of its IRI it tells what was stated, and no more. The
answer tells the same of it as the document if what was known before did, as far as the patch does not
decide; and what the document tells is found when the entity is looked up there, as one is that was
created where its class is kept. -/
theorem mints_in_document {world after : World Store} {resolver : Resolver} {request : Request}
    {typeName cls url : String} {known : Graph} {relation : Relation} {result : Resolved}
    (mints : request.MintsIn resolver world typeName cls url known relation)
    (ran : (resolver.resolve request).Returns Store.client world result after) :
    ∃ type values context minted patch,
      inputObject resolver request = .ok (type, values) ∧
      result = .node context ∧ context.url = url ∧
      (relation = none → context.subject = some (.iri minted)) ∧
      world.Minted after context known relation cls type values minted patch ∧
      (∀ t : Triple, t.subject ≠ .iri minted → ¬ relation.Links t →
        (t ∈ after.resources.documentOrEmpty url ↔ t ∈ world.resources.documentOrEmpty url)) ∧
      ((∀ t ∈ world.resources.documentOrEmpty url, t.subject ≠ .iri minted) →
        ∀ t : Triple, t.subject = .iri minted →
          (t ∈ after.resources.documentOrEmpty url ↔ t ∈ patch.inserts)) ∧
      ((∀ t : Triple, t.subject = .iri minted →
          (t ∈ after.graph context.graph ↔ t ∈ after.resources.documentOrEmpty url)) ↔
        ∀ t : Triple, t.subject = .iri minted → t ∉ patch.inserts → t ∉ patch.deletes →
          (t ∈ known ↔ t ∈ world.resources.documentOrEmpty url)) ∧
      (relation = none → resolver.LooksUpIn after.resources cls minted url) ∧
      (resolver.LooksUpIn after.resources cls minted url →
        ∀ query : Request, query.Finds typeName minted →
          ∃ found last, (resolver.resolve query).Returns Store.client after (.node found) last ∧
            found.subject = some (.iri minted) ∧ found.url = url ∧
            last.graph found.graph = after.resources.documentOrEmpty url) := by
  obtain ⟨type, values, context, minted, patch, input, answer, rfl, subject, made⟩ :=
    mints.minted ran
  refine ⟨type, values, context, minted, patch, input, answer, rfl, subject, made,
    fun _ => made.document_of_other, fun fresh _ => made.document_of_fresh fresh,
    made.graph_agrees_iff, fun unrelated => ?_, fun looksUp _ => made.finds mints.classOf looksUp⟩
  obtain ⟨kept, isKind⟩ := mints.kept unrelated
  exact made.looksUpIn kept isKind

open AddressBook

/-- The schema of the address book, where the contacts are kept in one document. -/
def inDocument : Resolver :=
  { AddressBook.resolver with target? := fun cls => if cls = person then some document else none }

/-- The field for the contacts whom a contact knows. -/
def knows : Field :=
  (((AddressBook.resolver.definition.object? "Contact").getD default).field? "knows").getD default

/-- The link of a contact to a new one. -/
def acquaintance (members : List (String × Json)) : Request :=
  field "ContactMutation" "addKnows" [(inputArgument, .object members)] (some ada)

/-- A contact whom no triple is about. -/
def eve : String := "http://example.org/contacts/ada#eve"

/-- The creation of a contact in the document. -/
def eveJoining : Request := creation [(slugField, .string "eve")]

/-- The link of a contact to a new one. -/
def eveMet : Request := acquaintance [(slugField, .string "eve")]

/-- A contact of a new name is found as it was answered, and a new acquaintance is told of by the graph
of the contact who knows it as by the document. -/
theorem mints_in_document_eve :
    (∃ found last,
      (inDocument.resolve (contactOf eve)).Returns Store.client
        (inDocument.settle Store.client stored eveJoining) (.node found) last ∧
      ∀ t : Triple, t.subject = .iri eve →
        (t ∈ (inDocument.settle Store.client stored eveJoining).graph 1 ↔
          t ∈ last.graph found.graph)) ∧
    ∀ t : Triple, t.subject = .iri eve →
      (t ∈ (resolver.settle Store.client stored eveMet).graph 0 ↔
        t ∈ (resolver.settle Store.client stored eveMet).resources.documentOrEmpty document) := by
  constructor
  · have creates : eveJoining.MintsIn inDocument stored "Contact" person document .empty none :=
      .create ⟨rfl, rfl, by decide, rfl⟩ rfl rfl rfl
    have ran : (inDocument.resolve eveJoining).Returns Store.client stored
        (.node { subject := some (.iri eve), graph := 1, kind := .document, url := document,
                 handled := true })
        (inDocument.settle Store.client stored eveJoining) := rfl
    obtain ⟨type, values, context, minted, patch, -, answer, -, subject, -, -, -, agrees, looksUp,
      finds⟩ := mints_in_document creates ran
    obtain rfl := Resolved.node.inj answer
    obtain rfl : eve = minted := by simpa using subject rfl
    obtain ⟨found, last, answered, -, -, same⟩ := finds (looksUp rfl) (contactOf eve)
      ⟨by decide, rfl, rfl, rfl⟩
    refine ⟨found, last, answered, ?_⟩
    rw [same]
    refine agrees.2 fun t about _ _ => ?_
    have known : ∀ t ∈ triples, t.subject ≠ .iri eve := by decide
    exact iff_of_false (Graph.not_mem_empty t) fun h => known t (Graph.mem_ofList.1 h) about
  · have parent : eveMet.parent = some ada := rfl
    have there : ada.graph < stored.graphs.size := Nat.zero_lt_one
    have mutates : eveMet.Mutates (.relation .add) := ⟨rfl, rfl, by decide, rfl⟩
    have changed : changedRelation resolver eveMet (MutationKind.ofName eveMet.field.name).2 =
        .ok (knows, "http://schema.org/knows") := rfl
    have meets : eveMet.MintsIn resolver stored "Contact" person document (stored.graph 0)
        (some ("http://example.org/contacts/ada#ada", "http://schema.org/knows")) :=
      .relation parent there rfl mutates (Or.inr rfl) changed rfl
    have ran : (resolver.resolve eveMet).Returns Store.client stored (.node ada.afterMutation)
        (resolver.settle Store.client stored eveMet) := rfl
    obtain ⟨type, values, context, minted, patch, input, answer, url, -, made, -, -, agrees, -⟩ :=
      mints_in_document meets ran
    obtain rfl := Resolved.node.inj answer
    have members : [(slugField, .string "eve")] = values := congrArg Prod.snd (Except.ok.inj input)
    obtain rfl : minted = eve := made.named eve (by rw [← members]; rfl)
    exact agrees.2 fun t _ _ _ => Iff.rfl

/-- The creation of a contact whose identifier is the one of another contact. -/
def joeAgain : Request :=
  creation [(identifierField, .string "#joe"), ("email", .array [.string "joe@example.org"])]

/-- The identifier of the other contact. -/
def joe : String := "http://example.org/contacts/ada#joe"

/-- The creation of a contact who is there already is answered. It gives the contact another address, and
the answer does not know whom the contact knows, which the contact is found with. -/
theorem create_adds_to_existing :
    ∃ context after found last,
      (inDocument.resolve joeAgain).Returns Store.client stored (.node context) after ∧
      Graph.typing (.iri joe) person ∈ stored.resources.documentOrEmpty document ∧
      literalTriple joe "http://schema.org/email" (.simple "joe@example.org") ∉
        stored.resources.documentOrEmpty document ∧
      literalTriple joe "http://schema.org/email" (.simple "joe@example.org") ∈
        after.resources.documentOrEmpty document ∧
      (inDocument.resolve (contactOf joe)).Returns Store.client after (.node found) last ∧
      linkTriple joe "http://schema.org/knows" "http://example.org/contacts/ada#ada" ∈
        last.graph found.graph ∧
      linkTriple joe "http://schema.org/knows" "http://example.org/contacts/ada#ada" ∉
        after.graph context.graph := by
  refine ⟨{ subject := some (.iri joe), graph := 1, kind := .document, url := document,
            handled := true },
    inDocument.settle Store.client stored joeAgain,
    { subject := some (.iri joe), graph := 2, kind := .document, url := document },
    inDocument.settle Store.client (inDocument.settle Store.client stored joeAgain) (contactOf joe),
    rfl, ?_, ?_, ?_, rfl, ?_, ?_⟩
  all_goals
    rw [← Graph.contains_eq_true_iff]
    decide +kernel

end LinkedShapes.Resolution
