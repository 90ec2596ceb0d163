import LinkedShapes.Proofs.Store
import LinkedShapes.Proofs.UpdatePatch

/-!
# Writing through

An entity is changed in two places: in its document, by one patch, and in the graph that its fields
are read from. The same patch is made in both, after it was accepted, so that two places that hold
the same triples go on holding the same triples, over any number of changes and whether they are
accepted or not.

The patch deletes only triples that the graph has (`updatePatch_deletes`, `relationPatch_deletes`);
where the document has the triples of the graph it is therefore never refused.

## Main statements

* `returns_applyPatch`: an empty patch is not sent, any other is sent once and then made in the graph.
* `Request.Edits.patched`: what an accepted change leaves behind.
* `Request.EditsAt.settle_inSync`: a change keeps a graph and a document in step, accepted or not.
* `scanl_settle_inSync`: so does any sequence of changes.
-/

namespace LinkedShapes.Resolution

open Rdf Ldp Schema Attempt

/-! ### Shared graphs -/

namespace World

variable {σ : Type} {world : World σ} {ref other : GraphRef} {patch : Patch}

theorem graph_patchGraph_self (made : ref < world.graphs.size) :
    (world.patchGraph ref patch).graph ref = patch.apply (world.graph ref) := by
  unfold graph patchGraph
  rw [Array.getD_eq_getD_getElem?, Array.getElem?_setIfInBounds_self_of_lt made]
  rfl

theorem graph_patchGraph_of_ne (different : other ≠ ref) :
    (world.patchGraph ref patch).graph other = world.graph other := by
  unfold graph patchGraph
  rw [Array.getD_eq_getD_getElem?, Array.getD_eq_getD_getElem?,
    Array.getElem?_setIfInBounds_ne different.symm]

theorem size_patchGraph : (world.patchGraph ref patch).graphs.size = world.graphs.size :=
  Array.size_setIfInBounds

end World

/-! ### The patch of a change of a relation -/

section Relations

variable {σ : Type} {client : Client σ} {world after : World σ} {resolver : Resolver}
  {request : Request} {context : Context} {subject property : String} {field : Field}
  {patch : Patch}

/-- The patch that links a new entity deletes what it is asked to. -/
theorem mem_deletes_of_returns_newLinkPatch {deletes : List Triple}
    (made : (newLinkPatch resolver request context subject property field deletes).Returns client
      world patch after) (t : Triple) :
    t ∈ patch.deletes ↔ t ∈ deletes := by
  obtain ⟨cls, _, -, made⟩ := returns_bind.1 made
  obtain ⟨⟨type, values⟩, _, -, made⟩ := returns_bind.1 made
  obtain ⟨child, _, -, made⟩ := returns_bind.1 made
  obtain ⟨stated, _, -, made⟩ := returns_bind.1 made
  obtain ⟨rfl, -⟩ := returns_pure.1 made
  rw [Patch.deletes_insert, Patch.deletes_insertAll, Patch.deletes_insert,
    Patch.mem_deletes_deleteAll]
  exact or_iff_right List.not_mem_nil

/-- The patch of a change of a relation deletes links of it only. -/
theorem relationPatch_deletes {links : List Triple} {change : RelationChange}
    (made : (relationPatch resolver request context subject property field links change).Returns
      client world patch after) :
    ∀ t ∈ patch.deletes, t ∈ links := by
  cases change with
  | set => exact fun t => (mem_deletes_of_returns_newLinkPatch made t).1
  | add =>
    intro t ht
    exact absurd ((mem_deletes_of_returns_newLinkPatch made t).1 ht) List.not_mem_nil
  | clear =>
    obtain ⟨rfl, -⟩ := returns_pure.1 made
    intro t ht
    rw [Patch.mem_deletes_deleteAll] at ht
    exact ht.resolve_left List.not_mem_nil
  | link =>
    obtain ⟨iri, _, -, made⟩ := returns_bind.1 made
    obtain ⟨rfl, -⟩ := returns_pure.1 made
    intro t ht
    rw [Patch.deletes_insert, Patch.mem_deletes_deleteAll] at ht
    have replaced := ht.resolve_left List.not_mem_nil
    split at replaced
    · exact absurd replaced List.not_mem_nil
    · exact (List.mem_filter.1 replaced).1
  | remove | unlink =>
    obtain ⟨iri, _, -, made⟩ := returns_bind.1 made
    obtain ⟨rfl, -⟩ := returns_pure.1 made
    intro t ht
    split at ht
    · rename_i linked
      rcases Patch.mem_deletes_delete.1 ht with ht | rfl
      · cases ht
      · exact linked
    · cases ht

end Relations

/-! ### What a change does -/

/-- The field changes the entity of a context: it updates its scalars or changes one of its
relations. -/
structure Request.Edits (request : Request) (context : Context) : Prop where
  /-- The field belongs to the entity of the context. -/
  parent : request.parent = some context
  /-- The field asks for one of these changes. -/
  mutates : request.Mutates .update ∨ ∃ change, request.Mutates (.relation change)

section Effects

variable {σ : Type} {client : Client σ} {world after : World σ} {resolver : Resolver}
  {request : Request} {context : Context} {patch : Patch} {result : Resolved}

/-- An empty patch is not sent; any other one is sent once, and made in the graph of the context when
it was accepted. -/
theorem returns_applyPatch :
    (applyPatch context patch).Returns client world () after ↔
      if patch.isEmpty then world = after
      else (client.write context.url (.patch patch) world.resources).1 = .ok () ∧
        World.patchGraph { world with
          resources := (client.write context.url (.patch patch) world.resources).2 }
          context.graph patch = after := by
  unfold applyPatch
  split
  · simp [returns_pure]
  · rw [returns_bind]
    simp only [returns_write, returns_changeGraph]
    constructor
    · rintro ⟨_, _, ⟨accepted, rfl⟩, h⟩
      exact ⟨accepted, h⟩
    · rintro ⟨accepted, h⟩
      exact ⟨(), _, ⟨accepted, rfl⟩, h⟩

/-- A patch that is applied is made in the graph of the context and in no other one. -/
theorem graphs_of_returns_applyPatch (made : context.graph < world.graphs.size)
    (ran : (applyPatch context patch).Returns client world () after) :
    (∀ t, t ∈ after.graph context.graph ↔
      (t ∈ world.graph context.graph ∧ t ∉ patch.deletes) ∨ t ∈ patch.inserts) ∧
    (∀ ref, ref ≠ context.graph → after.graph ref = world.graph ref) ∧
    after.graphs.size = world.graphs.size := by
  rw [returns_applyPatch] at ran
  split at ran
  · rename_i empty
    obtain ⟨inserts, deletes⟩ := Patch.isEmpty_iff.1 empty
    subst ran
    simp [inserts, deletes]
  · obtain ⟨-, rfl⟩ := ran
    refine ⟨fun t => ?_, fun ref different => ?_, World.size_patchGraph⟩
    · have changed (resources : σ) :
          (World.patchGraph { world with resources } context.graph patch).graph context.graph =
            patch.apply (world.graph context.graph) :=
        World.graph_patchGraph_self (show context.graph < _ from made)
      rw [changed, Patch.mem_apply]
    · rw [World.graph_patchGraph_of_ne different]
      rfl

/-- A change makes no call and changes no graph until its patch is known; the patch deletes triples
of the graph only. -/
theorem Request.Edits.applies (edits : request.Edits context)
    (ran : (resolver.resolve request).Returns client world result after) :
    ∃ patch between, (∀ t ∈ patch.deletes, t ∈ world.graph context.graph) ∧
      between.resources = world.resources ∧ between.graphs = world.graphs ∧
      (applyPatch context patch).Returns client between () after := by
  have given := Request.context_of_parent edits.parent
  rcases edits.mutates with updates | ⟨change, changes⟩
  · rw [resolve_of_mutates updates] at ran
    have ran := (returns_lift_bind_of_eq given).1 ran
    obtain ⟨subject, -, ran⟩ := returns_lift_bind.1 ran
    obtain ⟨entity, -, ran⟩ := returns_ofSchema_bind.1 ran
    obtain ⟨⟨type, values⟩, -, ran⟩ := returns_lift_bind.1 ran
    have ran := returns_readGraph_bind.1 ran
    obtain ⟨patch, made, ran⟩ := returns_lift_bind.1 ran
    obtain ⟨_, _, applied, ran⟩ := returns_bind.1 ran
    obtain ⟨-, rfl⟩ := returns_pure.1 ran
    exact ⟨patch, world, updatePatch_deletes made, rfl, rfl, applied⟩
  · rw [resolve_of_mutates changes] at ran
    have ran := (returns_lift_bind_of_eq given).1 ran
    obtain ⟨subject, -, ran⟩ := returns_lift_bind.1 ran
    obtain ⟨⟨field, property⟩, -, ran⟩ := returns_lift_bind.1 ran
    have ran := returns_readGraph_bind.1 ran
    obtain ⟨patch, between, made, ran⟩ := returns_bind.1 ran
    obtain ⟨_, _, applied, ran⟩ := returns_bind.1 ran
    obtain ⟨-, rfl⟩ := returns_pure.1 ran
    have observes : (relationPatch resolver request context subject property field
        ((world.graph context.graph).values (.iri subject) property) change).Observes false :=
      observes_relationPatch resolver request context subject property field _ change
    refine ⟨patch, between, fun t ht => ?_, observes.resources_eq made, observes.graphs_eq made,
      applied⟩
    exact (Graph.mem_values.1 (relationPatch_deletes made t ht)).1

end Effects

/-! ### Graphs and documents -/

/-- A shared graph and the document at a URL hold the same triples. -/
def World.InSync (world : World Store) (ref : GraphRef) (url : String) : Prop :=
  ∀ t, t ∈ world.graph ref ↔ t ∈ world.resources.documentOrEmpty url

/-- One call was made, which sent a patch to the document of a context. The patch was made in the
document and in the graph of the context, and in nothing else. -/
structure World.Patched (world after : World Store) (context : Context) (patch : Patch) :
    Prop where
  /-- The patch is the only call. -/
  calls : after.resources.calls =
    world.resources.calls ++ [⟨context.url, .write (.patch patch)⟩]
  /-- The graph of the context has lost what is deleted and has what is inserted. -/
  graph : ∀ t, t ∈ after.graph context.graph ↔
    (t ∈ world.graph context.graph ∧ t ∉ patch.deletes) ∨ t ∈ patch.inserts
  /-- So has the document. -/
  document : ∀ t, t ∈ after.resources.documentOrEmpty context.url ↔
    (t ∈ world.resources.documentOrEmpty context.url ∧ t ∉ patch.deletes) ∨ t ∈ patch.inserts
  /-- No graph was made. -/
  size : after.graphs.size = world.graphs.size
  /-- The other graphs are as they were. -/
  otherGraphs : ∀ ref, ref ≠ context.graph → after.graph ref = world.graph ref
  /-- The other documents are as they were. -/
  otherDocuments : ∀ url, url ≠ context.url →
    after.resources.document? url = world.resources.document? url
  /-- The containers are as they were. -/
  containers : after.resources.containers = world.resources.containers

section Stores

variable {world after : World Store} {resolver : Resolver} {request : Request}
  {context : Context} {patch : Patch} {result : Resolved} {cause : ResolveError}

/-- A patch that was sent and accepted is made in the document and in the graph. -/
theorem patched_of_applyPatch (made : context.graph < world.graphs.size)
    (filled : patch.isEmpty = false)
    (ran : (applyPatch context patch).Returns Store.client world () after) :
    world.Patched after context patch := by
  obtain ⟨graph, otherGraphs, size⟩ := graphs_of_returns_applyPatch made ran
  rw [returns_applyPatch, filled] at ran
  obtain ⟨accepted, rfl⟩ := ran
  have sent := Store.patchedAt_of_accepted accepted
  constructor
  case calls => exact Store.calls_client_write
  case graph => exact graph
  case document => exact sent.document
  case size => exact size
  case otherGraphs => exact otherGraphs
  case otherDocuments => exact sent.otherDocuments
  case containers => exact sent.containers

/-- What was patched after nothing had happened was patched at once. -/
theorem World.Patched.of_kept {between : World Store}
    (patched : between.Patched after context patch)
    (resources : between.resources = world.resources) (graphs : between.graphs = world.graphs) :
    world.Patched after context patch := by
  have graph (ref : GraphRef) : between.graph ref = world.graph ref := by
    rw [World.graph, graphs, World.graph]
  constructor
  case calls => rw [patched.calls, resources]
  case graph =>
    intro t
    rw [patched.graph, graph]
  case document =>
    intro t
    rw [patched.document, resources]
  case size => rw [patched.size, graphs]
  case otherGraphs =>
    intro ref different
    rw [patched.otherGraphs ref different, graph]
  case otherDocuments =>
    intro url different
    rw [patched.otherDocuments url different, resources]
  case containers => rw [patched.containers, resources]

/-- What a change that is accepted leaves behind. -/
theorem Request.Edits.patched (edits : request.Edits context)
    (made : context.graph < world.graphs.size)
    (ran : (resolver.resolve request).Returns Store.client world result after) :
    ∃ patch : Patch, (∀ t ∈ patch.deletes, t ∈ world.graph context.graph) ∧
      if patch.inserts = [] ∧ patch.deletes = [] then
        after.resources = world.resources ∧ after.graphs = world.graphs
      else world.Patched after context patch := by
  obtain ⟨patch, between, deletes, resources, graphs, applied⟩ := edits.applies ran
  refine ⟨patch, deletes, ?_⟩
  split
  · rename_i empty
    rw [returns_applyPatch, if_pos (Patch.isEmpty_iff.2 empty)] at applied
    exact ⟨applied ▸ resources, applied ▸ graphs⟩
  · rename_i filled
    have filled : patch.isEmpty = false := by
      rw [← Patch.isEmpty_iff] at filled
      simpa using filled
    exact (patched_of_applyPatch (graphs ▸ made) filled applied).of_kept resources graphs

/-- What was in step and is as it was is in step. -/
theorem World.InSync.kept {ref : GraphRef} {url : String} (inSync : world.InSync ref url)
    (graphs : after.graphs = world.graphs)
    (contents : after.resources.contents = world.resources.contents) : after.InSync ref url := by
  intro t
  change _ ↔ t ∈ after.resources.contents.1 url
  rw [World.graph, graphs, contents]
  exact inSync t

/-- What was in step and patched in both places is in step. -/
theorem World.Patched.inSync (patched : world.Patched after context patch)
    (inSync : world.InSync context.graph context.url) :
    after.InSync context.graph context.url := by
  intro t
  rw [patched.graph, patched.document, inSync t]

/-- A change that fails leaves graphs and documents as they were. -/
theorem resolve_error_kept
    (failed : (resolver.resolve request).runIn Store.client world = (.error cause, after)) :
    after.graphs = world.graphs ∧ after.resources.contents = world.resources.contents := by
  obtain ⟨-, contents, graphs⟩ := Program.FailsUnchanged.run_error
    (resolve_failsUnchanged resolver request) Store.client_steady failed
  exact ⟨graphs, contents⟩

end Stores

/-! ### Sequences of changes -/

/-- The request changes an entity that is read from a shared graph and written to a URL. -/
def Request.EditsAt (request : Request) (ref : GraphRef) (url : String) : Prop :=
  ∃ context, request.Edits context ∧ context.graph = ref ∧ context.url = url

section Sequences

variable {world : World Store} {resolver : Resolver} {request : Request} {ref : GraphRef}
  {url : String}

/-- A change keeps a graph and a document in step, accepted or not, and makes or drops no graph. -/
theorem Request.EditsAt.settle_inSync (resolver : Resolver) (edits : request.EditsAt ref url)
    (made : ref < world.graphs.size) (inSync : world.InSync ref url) :
    (resolver.settle Store.client world request).InSync ref url ∧
      ref < (resolver.settle Store.client world request).graphs.size := by
  obtain ⟨context, edits, rfl, rfl⟩ := edits
  unfold Resolver.settle
  rcases ran : (resolver.resolve request).runIn Store.client world with ⟨cause | result, after⟩
  · obtain ⟨graphs, contents⟩ := resolve_error_kept ran
    exact ⟨inSync.kept graphs contents, graphs ▸ made⟩
  · obtain ⟨patch, -, effect⟩ := edits.patched made ran
    split at effect
    · obtain ⟨resources, graphs⟩ := effect
      exact ⟨inSync.kept graphs (congrArg Store.contents resources), graphs ▸ made⟩
    · exact ⟨effect.inSync inSync, effect.size ▸ made⟩

/-- So does a sequence of changes, after each of them. -/
theorem scanl_settle_inSync {requests : List Request}
    (edits : ∀ request ∈ requests, request.EditsAt ref url) (made : ref < world.graphs.size)
    (inSync : world.InSync ref url) :
    ∀ after ∈ requests.scanl (resolver.settle Store.client) world, after.InSync ref url := by
  induction requests generalizing world with
  | nil =>
    intro after h
    rw [List.scanl_nil, List.mem_singleton] at h
    exact h ▸ inSync
  | cons request rest ih =>
    intro after h
    rw [List.scanl_cons, List.mem_cons] at h
    obtain ⟨inSync', made'⟩ :=
      (edits request List.mem_cons_self).settle_inSync resolver made inSync
    rcases h with rfl | h
    · exact inSync
    · exact ih (fun r hr => edits r (List.mem_cons_of_mem _ hr)) made' inSync' after h

end Sequences

/-- An accepted change is one patch of triples of the graph: where it says nothing, nothing happens,
and elsewhere it is the one call that is made, and the graph and the document are both changed by it.
So a graph and a document that hold the same triples do so after each of any sequence of changes,
those that fail too. -/
theorem edits_write_through (resolver : Resolver) :
    (∀ (request : Request) (context : Context) (world after : World Store) (result : Resolved),
      request.Edits context → context.graph < world.graphs.size →
      (resolver.resolve request).Returns Store.client world result after →
      ∃ patch : Patch, (∀ t ∈ patch.deletes, t ∈ world.graph context.graph) ∧
        if patch.inserts = [] ∧ patch.deletes = [] then
          after.resources = world.resources ∧ after.graphs = world.graphs
        else world.Patched after context patch) ∧
    ∀ (requests : List Request) (ref : GraphRef) (url : String) (world : World Store),
      (∀ request ∈ requests, request.EditsAt ref url) → ref < world.graphs.size →
      world.InSync ref url →
      ∀ after ∈ requests.scanl (resolver.settle Store.client) world, after.InSync ref url :=
  ⟨fun _ _ _ _ _ edits made ran => edits.patched made ran,
    fun _ _ _ _ edits made inSync => scanl_settle_inSync edits made inSync⟩

open AddressBook

/-- A change of the address book is sent, and the book stays in step when it is made twice. -/
theorem edits_write_through_addressChange :
    (∃ patch : Patch, (∀ t ∈ patch.deletes, t ∈ stored.graph ada.graph) ∧
      if patch.inserts = [] ∧ patch.deletes = [] then
        (resolver.settle Store.client stored addressChange).resources = stored.resources ∧
          (resolver.settle Store.client stored addressChange).graphs = stored.graphs
      else stored.Patched (resolver.settle Store.client stored addressChange) ada patch) ∧
    ∀ after ∈ [addressChange, addressChange].scanl (resolver.settle Store.client) stored,
      after.InSync ada.graph ada.url := by
  have edits : addressChange.Edits ada := ⟨rfl, Or.inl ⟨rfl, rfl, by decide, rfl⟩⟩
  have made : ada.graph < stored.graphs.size := Nat.zero_lt_one
  obtain ⟨step, run⟩ := edits_write_through resolver
  refine ⟨step addressChange ada stored _ (.node ada.afterMutation) edits made rfl, ?_⟩
  refine run [addressChange, addressChange] ada.graph ada.url stored ?_ made fun t => Iff.rfl
  intro request h
  obtain rfl : request = addressChange := by simpa using h
  exact ⟨ada, edits, rfl, rfl⟩

end LinkedShapes.Resolution
