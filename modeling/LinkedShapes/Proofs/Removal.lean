import LinkedShapes.Proofs.Confinement
import LinkedShapes.Proofs.SharedGraphs

/-!
# Removing an entity

An entity that was looked up in a document is removed from it triple by triple, in one patch that is not
sent if there are none; one that was looked up below a container is removed with its document. In both
cases its triples are gone from the graph that it was read from, and no other document is changed. The
answer is read from a graph of its own, which later changes of the entity do not reach.

## Main statements

* `World.Removed`: what a removal leaves behind.
* `Request.MutatesEntity.removed`: a removal that is answered leaves that behind.
* `Request.MutatesEntity.exists_returns_delete_iff`: when a removal is answered.
* `delete_is_complete`: both, and that the answer stays as it is whatever follows.
-/

namespace LinkedShapes.Ldp.Store

variable {store : Store} {url : String}

/-- What is removed must be there. -/
theorem remove_eq_ok_iff : (store.remove url).1 = .ok () ↔
    (store.document? url).isSome = true ∨ store.isContainer url = true := by
  rw [← Bool.or_eq_true, remove]
  cases (store.document? url).isSome || store.isContainer url <;> simp

/-- A document that was removed is not there. -/
theorem document?_remove_self (removed : (store.remove url).1 = .ok ()) :
    (store.remove url).2.document? url = none := by
  unfold remove at removed ⊢
  split at removed
  · rename_i there
    rw [if_pos there, document?]
    simp
  · cases removed

end LinkedShapes.Ldp.Store

namespace LinkedShapes.Resolution

open Rdf Ldp Schema Attempt

/-- An entity was removed, from the graph of its context and from the document or with it. -/
structure World.Removed (world after : World Store) (context : Context) (subject : String) : Prop where
  /-- The graph has lost the triples about the entity, and no other. -/
  graph : ∀ t, t ∈ after.graph context.graph ↔
    t ∈ world.graph context.graph ∧ t.subject ≠ .iri subject
  /-- So has the document that the entity was looked up in. -/
  document : context.kind = .document → ∀ t, t ∈ after.resources.documentOrEmpty context.url ↔
    t ∈ world.resources.documentOrEmpty context.url ∧ t.subject ≠ .iri subject
  /-- Nothing is sent to it if there are no such triples. -/
  unsent : context.kind = .document →
    (∀ t ∈ world.graph context.graph, t.subject ≠ .iri subject) →
    after.resources.calls = world.resources.calls
  /-- The document of an entity that was looked up below a container is gone. -/
  gone : context.kind = .container → after.resources.document? context.url = none
  /-- The other documents are as they were. -/
  otherDocuments : ∀ url, url ≠ context.url →
    after.resources.document? url = world.resources.document? url
  /-- At most one call was made. -/
  calls : ∃ made, after.resources.calls = world.resources.calls ++ made ∧ made.length ≤ 1

section Removals

variable {resolver : Resolver} {request : Request} {context : Context} {subject : String}
  {result : Resolved} {deletes : List Triple}

/-- Detaching an entity takes its triples from the graph of the context, and answers it with a new graph. -/
theorem returns_detach {σ : Type} {client : Client σ} {world after : World σ}
    {graph : Graph} (ran : (detach context subject graph).Returns client world result after)
    (there : context.graph < world.graphs.size) (known : world.graph context.graph = graph) :
    result = .node (context.movedTo world.graphs.size) ∧ after.resources = world.resources ∧
      world.graphs.size < after.graphs.size ∧
      ∀ t, t ∈ after.graph context.graph ↔ t ∈ graph ∧ t.subject ≠ .iri subject := by
  subst known
  obtain ⟨_, changed, patched, ran⟩ := returns_bind.1 ran
  obtain rfl := returns_changeGraph.1 patched
  obtain ⟨ref, _, created, ran⟩ := returns_bind.1 ran
  obtain ⟨rfl, rfl⟩ := returns_pure.1 ran
  obtain ⟨rfl, rfl⟩ := returns_newGraph.1 created
  have size {patch : Patch} : (world.patchGraph context.graph patch).graphs.size = world.graphs.size :=
    World.size_patchGraph
  refine ⟨by rw [size]; rfl, rfl, by rw [Array.size_push, size]; exact Nat.lt_succ_self _, fun t => ?_⟩
  rw [World.graph_of_push_of_lt rfl (size ▸ there), World.graph_patchGraph_self there, Patch.mem_apply,
    Graph.mem_about, or_iff_left List.not_mem_nil]
  exact and_congr_right fun known => not_congr (and_iff_right known)

/-- A removal sends one write or, for an entity of a document that has no triples, none. -/
theorem cases_of_returns_sendRemoval {σ : Type} {client : Client σ} {world after : World σ}
    (ran : (sendRemoval context deletes).Returns client world () after) :
    (context.kind = .document ∧ deletes = [] ∧ world = after) ∨
    ∃ change, (context.kind = .document ∧ deletes ≠ [] ∧ change = .patch { deletes } ∨
        context.kind = .container ∧ change = .delete) ∧
      (client.write context.url change world.resources).1 = .ok () ∧
      { world with resources := (client.write context.url change world.resources).2 } = after := by
  unfold sendRemoval at ran
  split at ran
  · rename_i container
    exact Or.inr ⟨.delete, Or.inr ⟨container, rfl⟩, returns_write.1 ran⟩
  · rename_i document
    split at ran
    · rename_i none
      exact Or.inl ⟨document, List.isEmpty_iff.1 none, (returns_pure.1 ran).2⟩
    · rename_i some
      have filled : deletes ≠ [] := fun none => some (List.isEmpty_iff.2 none)
      exact Or.inr ⟨_, Or.inl ⟨document, filled, rfl⟩, returns_write.1 ran⟩

/-- The removal of triples that the document has is accepted; a document that is removed must be there. -/
theorem exists_returns_sendRemoval_iff {world : World Store}
    (held : ∀ t ∈ deletes, t ∈ world.resources.documentOrEmpty context.url) :
    (∃ after, (sendRemoval context deletes).Returns Store.client world () after) ↔
      (context.kind = .container → (world.resources.document? context.url).isSome = true ∨
        world.resources.isContainer context.url = true) := by
  unfold sendRemoval
  cases context.kind with
  | container =>
    simp only [returns_write, exists_and_left, exists_eq', and_true, forall_const]
    exact Store.remove_eq_ok_iff
  | document =>
    refine iff_of_true ?_ fun container => absurd container (by decide)
    dsimp only
    split
    · exact ⟨world, returns_pure.2 ⟨rfl, rfl⟩⟩
    · exact ⟨_, returns_write.2 ⟨Store.patch_eq_ok_iff.2 held, rfl⟩⟩

/-- A removal sends the write and detaches the entity. -/
theorem Request.MutatesEntity.returns_delete_iff {σ : Type} {client : Client σ} {world after : World σ}
    (deletes : request.MutatesEntity .delete context subject) :
    (resolver.resolve request).Returns client world result after ↔
      ∃ between, (sendRemoval context ((world.graph context.graph).about (.iri subject))).Returns client
          world () between ∧
        (detach context subject (world.graph context.graph)).Returns client between result after := by
  rw [resolve_of_mutates deletes.mutates, performedBy, delete_eq,
    returns_lift_bind_of_eq (Request.context_of_parent deletes.parent),
    returns_lift_bind_of_eq (namedSubject_of_subject deletes.named), returns_readGraph_bind, returns_bind]
  constructor
  · rintro ⟨_, between, sent, ran⟩
    exact ⟨between, sent, ran⟩
  · rintro ⟨between, sent, ran⟩
    exact ⟨(), between, sent, ran⟩

/-- A removal is answered if and only if the document of an entity that was looked up below a container is
there. -/
theorem Request.MutatesEntity.exists_returns_delete_iff {world : World Store}
    (deletes : request.MutatesEntity .delete context subject)
    (inSync : world.InSync context.graph context.url) :
    (∃ result after, (resolver.resolve request).Returns Store.client world result after) ↔
      (context.kind = .container → (world.resources.document? context.url).isSome = true ∨
        world.resources.isContainer context.url = true) := by
  have held (t : Triple) (about : t ∈ (world.graph context.graph).about (.iri subject)) :
      t ∈ world.resources.documentOrEmpty context.url := (inSync t).1 (Graph.mem_about.1 about).1
  rw [← exists_returns_sendRemoval_iff held]
  constructor
  · rintro ⟨result, after, ran⟩
    obtain ⟨between, sent, -⟩ := deletes.returns_delete_iff.1 ran
    exact ⟨between, sent⟩
  · rintro ⟨between, sent⟩
    exact ⟨_, _, deletes.returns_delete_iff.2 ⟨between, sent, rfl⟩⟩

/-- A removal that is answered removes the entity. -/
theorem Request.MutatesEntity.removed {world after : World Store}
    (deletes : request.MutatesEntity .delete context subject)
    (there : context.graph < world.graphs.size) (inSync : world.InSync context.graph context.url)
    (ran : (resolver.resolve request).Returns Store.client world result after) :
    result = .node (context.movedTo world.graphs.size) ∧ world.graphs.size < after.graphs.size ∧
      world.Removed after context subject := by
  have apart : ResourceKind.document ≠ .container := by decide
  obtain ⟨between, sent, ran⟩ := deletes.returns_delete_iff.1 ran
  rcases cases_of_returns_sendRemoval sent with ⟨isDocument, none, rfl⟩ | ⟨change, sends, accepted, rfl⟩
  · obtain ⟨answer, resources, size, graph⟩ := returns_detach ran there rfl
    have unknown (t : Triple) (known : t ∈ world.graph context.graph) : t.subject ≠ .iri subject :=
      fun about => List.not_mem_nil (none ▸ Graph.mem_about.2 ⟨known, about⟩)
    refine ⟨answer, size, ?_⟩
    constructor
    case graph => exact graph
    case document =>
      intro _ t
      rw [resources]
      exact (and_iff_left_of_imp fun held => unknown t ((inSync t).2 held)).symm
    case unsent => exact fun _ _ => congrArg Store.calls resources
    case gone => exact fun container => absurd (isDocument.symm.trans container) apart
    case otherDocuments => exact fun url _ => by rw [resources]
    case calls => exact ⟨[], by rw [resources, List.append_nil], Nat.zero_le 1⟩
  · obtain ⟨answer, resources, size, graph⟩ := returns_detach ran there rfl
    have calls : after.resources.calls =
        world.resources.calls ++ [⟨context.url, .write change⟩] := by
      rw [resources]
      exact Store.calls_client_write
    refine ⟨answer, size, ?_⟩
    rcases sends with ⟨isDocument, some, rfl⟩ | ⟨isContainer, rfl⟩
    · have patched := Store.patchedAt_of_accepted accepted
      constructor
      case graph => exact graph
      case document =>
        intro _ t
        rw [resources, patched.document, or_iff_left List.not_mem_nil, Graph.mem_about]
        exact and_congr_right fun held => not_congr (and_iff_right ((inSync t).2 held))
      case unsent =>
        intro _ unknown
        refine absurd (List.eq_nil_iff_forall_not_mem.2 fun t known => ?_) some
        exact unknown t (Graph.mem_about.1 known).1 (Graph.mem_about.1 known).2
      case gone => exact fun container => absurd (isDocument.symm.trans container) apart
      case otherDocuments => exact fun url other => resources ▸ patched.otherDocuments url other
      case calls => exact ⟨_, calls, Nat.le_refl 1⟩
    · have same : (world.resources.note context.url (.write .delete)).SameBut context.url
          after.resources := resources ▸ Store.sameBut_remove
      constructor
      case graph => exact graph
      case document => exact fun document => absurd (document.symm.trans isContainer) apart
      case unsent => exact fun document => absurd (document.symm.trans isContainer) apart
      case gone => exact fun _ => resources ▸ Store.document?_remove_self accepted
      case otherDocuments => exact same.documents
      case calls => exact ⟨_, calls, Nat.le_refl 1⟩

end Removals

/-- A removal that is answered is complete and touches nothing else. An entity that was looked up in a
document is gone from it and from the graph that it was read from, triple by triple; one that was looked
up below a container is gone with its document, which must be there. At most one call is made. The answer
is read from a new graph, which stays as it is over any later requests, those for the removed entity
included, that are not for the answer itself. -/
theorem delete_is_complete {world : World Store} (resolver : Resolver) {request : Request}
    {context : Context} {subject : String} (deletes : request.MutatesEntity .delete context subject)
    (there : context.graph < world.graphs.size) (inSync : world.InSync context.graph context.url) :
    (∀ result after, (resolver.resolve request).Returns Store.client world result after →
      world.Removed after context subject ∧
      result = .node (context.movedTo world.graphs.size) ∧
      ∀ requests : List Request,
        (∀ later ∈ requests, later.parent = some context ∨ ¬ later.ReadsFrom world.graphs.size) →
        ∀ last ∈ requests.scanl (resolver.settle Store.client) after,
          last.graph world.graphs.size = after.graph world.graphs.size) ∧
    ((∃ result after, (resolver.resolve request).Returns Store.client world result after) ↔
      (context.kind = .container → (world.resources.document? context.url).isSome = true ∨
        world.resources.isContainer context.url = true)) := by
  refine ⟨fun result after ran => ?_, deletes.exists_returns_delete_iff inSync⟩
  obtain ⟨answer, made, removed⟩ := deletes.removed there inSync ran
  refine ⟨removed, answer, fun requests others => scanl_settle_keeps (fun later h reads => ?_) made⟩
  rcases others later h with parent | apart
  · obtain ⟨other, isParent, same⟩ := reads
    obtain rfl : context = other := Option.some.inj (parent.symm.trans isParent)
    exact absurd same (Nat.ne_of_lt there)
  · exact apart reads

open AddressBook

/-- The contact, looked up in the document. -/
def adaListed : Context := { ada with kind := .document }

/-- A contact is removed from the document that lists it, or with the document. What is answered stays the
same when the addresses of the contact are then changed and it is removed once more. -/
theorem delete_is_complete_ada :
    (∀ t, t ∈ (resolver.settle Store.client stored (removalOf adaListed)).resources.documentOrEmpty
        document ↔ t ∈ stored.resources.documentOrEmpty document ∧
          t.subject ≠ .iri "http://example.org/contacts/ada#ada") ∧
    (resolver.settle Store.client stored removal).resources.document? document = none ∧
    ∀ last ∈ [addressChange, removal].scanl (resolver.settle Store.client)
        (resolver.settle Store.client stored removal),
      last.graph 1 = (resolver.settle Store.client stored removal).graph 1 := by
  have there : 0 < stored.graphs.size := Nat.zero_lt_one
  have inSync : stored.InSync 0 document := fun t => Iff.rfl
  constructor
  · have deletes : (removalOf adaListed).MutatesEntity .delete adaListed
        "http://example.org/contacts/ada#ada" :=
      ⟨⟨rfl, rfl, by decide, rfl⟩, rfl, rfl⟩
    have ran : (resolver.resolve (removalOf adaListed)).Returns Store.client stored
        (.node (adaListed.movedTo 1))
        (resolver.settle Store.client stored (removalOf adaListed)) := rfl
    exact ((delete_is_complete resolver deletes there inSync).1 _ _ ran).1.document rfl
  · have deletes : removal.MutatesEntity .delete ada "http://example.org/contacts/ada#ada" :=
      ⟨⟨rfl, rfl, by decide, rfl⟩, rfl, rfl⟩
    have ran : (resolver.resolve removal).Returns Store.client stored (.node (ada.movedTo 1))
        (resolver.settle Store.client stored removal) := rfl
    obtain ⟨removed, -, detached⟩ := (delete_is_complete resolver deletes there inSync).1 _ _ ran
    refine ⟨removed.gone rfl, detached [addressChange, removal] fun later h => Or.inl ?_⟩
    rcases List.mem_pair.1 h with rfl | rfl <;> rfl

end LinkedShapes.Resolution
