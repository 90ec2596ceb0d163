import LinkedShapes.Proofs.Reading

/-!
# Which graph a field changes

A shared graph is changed by a field of the entity that is read from it, and by nothing else: a field at the
root changes none, and a field of an entity changes the graph of the entity at most. Graphs that are made on
the way are new. So a graph stays as it is, over any sequence of requests, as long as no field of an entity
that is read from it is among them.

## Main statements

* `ChangesOnly.keeps_runIn`: a run of an attempt keeps the graphs that the attempt cannot change.
* `resolve_changesOnly`: a field changes the graph of its entity at most.
* `scanl_settle_keeps`: a sequence of requests keeps a graph that none of them belongs to.
-/

namespace LinkedShapes.Resolution

open Rdf Ldp Schema

variable {σ α β : Type} {client : Client σ} {world between after : World σ}
  {changed : GraphRef → Prop}

/-- Each shared graph is as it was, but for some that may have been changed; there may be more of them. -/
structure World.Keeps (changed : GraphRef → Prop) (world after : World σ) : Prop where
  /-- No graph is gone. -/
  size : world.graphs.size ≤ after.graphs.size
  /-- No other graph is changed. -/
  graph : ∀ ref < world.graphs.size, ¬ changed ref → after.graph ref = world.graph ref

namespace World.Keeps

theorem of_extends (extended : world.Extends after) : world.Keeps changed after :=
  ⟨extended.size, fun ref there _ => extended.graph ref there⟩

theorem trans (first : world.Keeps changed between) (second : between.Keeps changed after) :
    world.Keeps changed after :=
  ⟨Nat.le_trans first.size second.size, fun ref there other =>
    (second.graph ref (Nat.lt_of_lt_of_le there first.size) other).trans (first.graph ref there other)⟩

theorem patchGraph {ref : GraphRef} (isChanged : changed ref) (patch : Patch) :
    world.Keeps changed (world.patchGraph ref patch) :=
  ⟨Nat.le_of_eq World.size_patchGraph.symm, fun _ _ other =>
    World.graph_patchGraph_of_ne fun same => other (same ▸ isChanged)⟩

end World.Keeps

namespace Action

variable {action : Action}

/-- The action changes no shared graph but some. -/
def ChangesOnly (changed : GraphRef → Prop) : Action → Prop
  | .changeGraph ref _ => changed ref
  | .kind _ | .download _ | .write _ _ | .newGraph _ | .readGraph _ | .freshName => True

theorem Inquires.changesOnly (inquires : action.Inquires) : action.ChangesOnly changed := by
  cases action with
  | write | changeGraph => exact inquires.elim
  | kind | download | newGraph | readGraph | freshName => trivial

theorem ChangesOnly.keeps_perform (only : action.ChangesOnly changed) (client : Client σ)
    (world : World σ) : world.Keeps changed (action.perform client world).2 := by
  cases action with
  | newGraph graph => exact .of_extends (.of_push rfl)
  | changeGraph ref patch => exact .patchGraph only patch
  | kind | download | write | readGraph | freshName => exact .of_extends (.of_graphs_eq rfl)

end Action

namespace Attempt

/-- The attempt changes no shared graph but some. -/
abbrev ChangesOnly (changed : GraphRef → Prop) (attempt : Attempt α) : Prop :=
  attempt.Takes (Action.ChangesOnly changed)

theorem changesOnly_newGraph (graph : Graph) : (newGraph graph).ChangesOnly changed :=
  takes_newGraph trivial

theorem changesOnly_changeGraph {ref : GraphRef} (isChanged : changed ref) (patch : Patch) :
    (changeGraph ref patch).ChangesOnly changed :=
  takes_changeGraph isChanged

theorem changesOnly_write (url : String) (change : Write) :
    (write url change).ChangesOnly changed :=
  takes_write trivial

theorem Inquires.changesOnly {attempt : Attempt α} (inquires : attempt.Inquires) :
    attempt.ChangesOnly changed :=
  inquires.mono fun _ inquires => inquires.changesOnly

theorem Observes.changesOnly {attempt : Attempt α} (observes : attempt.Observes true) :
    attempt.ChangesOnly changed :=
  observes.inquires.changesOnly

/-- A run of an attempt keeps the graphs that the attempt cannot change. -/
theorem ChangesOnly.keeps_runIn {attempt : Attempt α} (only : attempt.ChangesOnly changed)
    (client : Client σ) (world : World σ) :
    world.Keeps changed (attempt.runIn client world).2 :=
  only.runIn_keeps (world.Keeps changed)
    (fun _ between only first => first.trans (only.keeps_perform client between))
    (.of_extends (.refl world))

end Attempt

open Attempt

/-! ### The graph of the entity -/

section Requests

variable {resolver : Resolver} {request : Request} {context : Context}

/-- The field belongs to an entity that is read from a graph. -/
def Request.ReadsFrom (request : Request) (ref : GraphRef) : Prop :=
  ∃ context, request.parent = some context ∧ context.graph = ref

theorem Request.readsFrom_of_context (given : request.context = .ok context) :
    request.ReadsFrom context.graph := by
  unfold Request.context at given
  cases parent : request.parent with
  | none => simp [parent] at given
  | some found =>
    rw [parent] at given
    exact ⟨found, parent, congrArg Context.graph (Except.ok.inj given)⟩

theorem applyPatch_changesOnly (isChanged : changed context.graph) (patch : Patch) :
    (applyPatch context patch).ChangesOnly changed := by
  unfold applyPatch
  split
  · exact takes_pure ()
  · exact (changesOnly_write _ _).bind fun _ => changesOnly_changeGraph isChanged patch

theorem sendRemoval_changesOnly (context : Context) (deletes : List Triple) :
    (sendRemoval context deletes).ChangesOnly changed := by
  unfold sendRemoval
  split
  · exact changesOnly_write _ _
  · split
    · exact takes_pure ()
    · exact changesOnly_write _ _

theorem create_changesOnly (resolver : Resolver) (request : Request) :
    (create resolver request).ChangesOnly changed := by
  have writeNew (cls : String) (type : InputType) (values : List (String × Json)) (kind : ResourceKind)
      (document subject : String) :
      (writeNew cls type values kind document subject).ChangesOnly changed := by
    refine (takes_lift _).bind fun stated => ?_
    refine (changesOnly_write _ _).bind fun _ => ?_
    exact (changesOnly_newGraph _).bind fun ref => takes_pure _
  rw [create_eq]
  refine (takes_lift _).bind fun cls => ?_
  refine (takes_lift _).bind fun target => ?_
  refine (takes_lift _).bind fun (type, values) => ?_
  refine (observes_kind target).changesOnly.bind fun kind => ?_
  cases kind with
  | container =>
    refine (observes_mintDocument target values).changesOnly.bind fun (document, subject) => ?_
    refine (observes_ensureAbsent document).changesOnly.bind fun _ => ?_
    exact writeNew cls type values .container document subject
  | document =>
    refine (observes_mintSubject target values).changesOnly.bind fun subject => ?_
    exact writeNew cls type values .document target subject

/-- A field changes the graph that its entity is read from, and no other one. -/
theorem resolve_changesOnly (resolver : Resolver) (request : Request) :
    (resolver.resolve request).ChangesOnly request.ReadsFrom := by
  by_cases queries : request.Queries
  · exact (queries.inquires resolver).changesOnly
  · rw [resolve_of_mutates (request.mutates_of_not_queries queries)]
    cases (MutationKind.ofName request.field.name).1 with
    | create => exact create_changesOnly resolver request
    | mutate =>
      refine (takes_lift _).bind fun cls => ?_
      refine (takes_lift _).bind fun target => ?_
      refine (takes_lift _).bind fun iri => ?_
      exact (lookUpInstance_inquires cls target _).changesOnly.bind fun _ => takes_pure _
    | read => exact (entryPoint_inquires resolver request).changesOnly
    | update =>
      refine takes_lift_bind fun context given => ?_
      refine (takes_lift _).bind fun subject => ?_
      refine (takes_ofSchema _).bind fun entity => ?_
      refine (takes_lift _).bind fun (type, values) => ?_
      refine (observes_readGraph _).changesOnly.bind fun graph => ?_
      refine (takes_lift _).bind fun patch => ?_
      exact (applyPatch_changesOnly (Request.readsFrom_of_context given) patch).bind fun _ =>
        takes_pure _
    | relation change =>
      refine takes_lift_bind fun context given => ?_
      refine (takes_lift _).bind fun subject => ?_
      refine (takes_lift _).bind fun (field, property) => ?_
      refine (observes_readGraph _).changesOnly.bind fun graph => ?_
      refine (observes_relationPatch _ _ _ _ _ _ _ _).changesOnly.bind fun patch => ?_
      exact (applyPatch_changesOnly (Request.readsFrom_of_context given) patch).bind fun _ =>
        takes_pure _
    | delete =>
      rw [performedBy, delete_eq]
      refine takes_lift_bind fun context given => ?_
      refine (takes_lift _).bind fun subject => ?_
      refine (observes_readGraph _).changesOnly.bind fun graph => ?_
      refine (sendRemoval_changesOnly context _).bind fun _ => ?_
      refine (changesOnly_changeGraph (Request.readsFrom_of_context given) _).bind fun _ => ?_
      exact (changesOnly_newGraph _).bind fun _ => takes_pure _

/-- A graph stays as it is as long as no field of an entity that is read from it is resolved. -/
theorem settle_keeps (resolver : Resolver) (client : Client σ) (world : World σ) (request : Request) :
    world.Keeps request.ReadsFrom (resolver.settle client world request) :=
  (resolve_changesOnly resolver request).keeps_runIn client world

theorem scanl_settle_keeps {requests : List Request} {ref : GraphRef}
    (apart : ∀ request ∈ requests, ¬ request.ReadsFrom ref) (there : ref < world.graphs.size) :
    ∀ last ∈ requests.scanl (resolver.settle client) world, last.graph ref = world.graph ref := by
  induction requests generalizing world with
  | nil =>
    intro last h
    rw [List.scanl_nil, List.mem_singleton] at h
    rw [h]
  | cons request rest ih =>
    intro last h
    rw [List.scanl_cons, List.mem_cons] at h
    obtain ⟨size, kept⟩ := settle_keeps resolver client world request
    rcases h with rfl | h
    · rfl
    · have later := ih (fun r hr => apart r (List.mem_cons_of_mem _ hr))
        (Nat.lt_of_lt_of_le there size) last h
      exact later.trans (kept ref there (apart request List.mem_cons_self))

end Requests

end LinkedShapes.Resolution
