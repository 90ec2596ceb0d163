import LinkedShapes.Proofs.Actions

/-!
# Fields that fail change nothing

A resolution reads and checks first, then sends its one write, and changes a shared graph only after
the write was accepted; after that nothing can fail. `FailsUnchanged` says this of a program: no path
of it ends with an error after a step that changes something. It is shown of the resolution of every
field, one kind of mutation after the other, and a run of such a program that ends with an error
leaves the resources and the shared graphs as they were, whatever the client does.

## Main statements

* `resolve_failsUnchanged`: no path of the resolution of a field fails after a change.
* `FailsUnchanged.run_error`: a run that fails leaves resources and graphs as they were.
* `resolve_error_unchanged`: the same of the resolution of a field.
-/

namespace LinkedShapes.Ldp

open Rdf

/-- What a view shows of the state of the client stays when the client is asked a question and when it
refuses a change. -/
structure Client.Steady {σ γ : Type} (client : Client σ) (view : σ → γ) : Prop where
  /-- Asking for a kind changes nothing. -/
  kind : ∀ url state, view (client.kind url state).2 = view state
  /-- Asking for triples changes nothing. -/
  download : ∀ url state, view (client.download url state).2 = view state
  /-- A change that is refused is not made in part. -/
  refused : ∀ url change state failure, (client.write url change state).1 = .error failure →
    view (client.write url change state).2 = view state

end LinkedShapes.Ldp

namespace LinkedShapes.Resolution

open Rdf Ldp Schema

variable {σ α β γ : Type} {client : Client σ} {asks changed : Bool}

/-! ### Programs -/

namespace Action

/-- The action changes nothing: it reads a shared graph or draws a name, or asks a question of the client,
which only `asks` allows. -/
def Observes (asks : Bool) : Action → Prop
  | .kind _ | .download _ => asks = true
  | .readGraph _ | .freshName => True
  | .write _ _ | .newGraph _ | .changeGraph _ _ => False

/-- Whether an action has changed something once it is answered. -/
def changes : (action : Action) → action.Answer → Bool
  | .kind _, _ | .download _, _ | .readGraph _, _ | .freshName, _ => false
  | .write _ _, answer => answer.isOk
  | .newGraph _, _ | .changeGraph _ _, _ => true

variable {action : Action}

theorem Observes.changes_eq_false (observes : action.Observes asks) (answer : action.Answer) :
    action.changes answer = false := by
  cases action with
  | write | newGraph | changeGraph => exact observes.elim
  | kind | download | readGraph | freshName => rfl

theorem Observes.graphs_perform (observes : action.Observes asks) (client : Client σ)
    (world : World σ) : (action.perform client world).2.graphs = world.graphs := by
  cases action with
  | write | newGraph | changeGraph => exact observes.elim
  | kind | download | readGraph | freshName => rfl

theorem Observes.resources_perform (observes : action.Observes false) (client : Client σ)
    (world : World σ) : (action.perform client world).2.resources = world.resources := by
  cases action with
  | kind | download => exact absurd observes Bool.false_ne_true
  | write | newGraph | changeGraph => exact observes.elim
  | readGraph | freshName => rfl

/-- An action that has changed nothing leaves the resources and the shared graphs as they were. -/
theorem perform_of_changes_eq_false {view : σ → γ} {world : World σ} (steady : client.Steady view)
    (unchanged : action.changes (action.perform client world).1 = false) :
    view (action.perform client world).2.resources = view world.resources ∧
      (action.perform client world).2.graphs = world.graphs := by
  cases action with
  | kind url => exact ⟨steady.kind url _, rfl⟩
  | download url => exact ⟨steady.download url _, rfl⟩
  | write url change =>
    refine ⟨?_, rfl⟩
    rcases answered : (client.write url change world.resources).1 with failure | accepted
    · exact steady.refused url change _ failure answered
    · have accepts : (client.write url change world.resources).1.isOk = false := unchanged
      rw [answered] at accepts
      cases accepts
  | newGraph | changeGraph => cases unchanged
  | readGraph | freshName => exact ⟨rfl, rfl⟩

end Action

namespace Program

/-- No path of the program ends with an error after something was changed; `changed` says whether
something was changed before the program. -/
def FailsUnchanged {ε : Type} : Bool → Program (Except ε α) → Prop
  | changed, .done (.error _) => changed = false
  | _, .done (.ok _) => True
  | changed, .kind _ next => ∀ answer, FailsUnchanged changed (next answer)
  | changed, .download _ next => ∀ answer, FailsUnchanged changed (next answer)
  | changed, .write _ _ next => ∀ answer, FailsUnchanged (changed || answer.isOk) (next answer)
  | _, .newGraph _ next => ∀ ref, FailsUnchanged true (next ref)
  | changed, .readGraph _ next => ∀ graph, FailsUnchanged changed (next graph)
  | _, .changeGraph _ _ next => FailsUnchanged true next
  | changed, .freshName next => ∀ name, FailsUnchanged changed (next name)

theorem failsUnchanged_andThen {ε : Type} {action : Action}
    {next : action.Answer → Program (Except ε α)} :
    FailsUnchanged changed (action.andThen next) ↔
      ∀ answer, FailsUnchanged (changed || action.changes answer) (next answer) := by
  cases action with
  | changeGraph ref patch =>
    simp only [Action.changes, Bool.or_true]
    exact ⟨fun fails _ => fails, fun fails => fails ()⟩
  | _ => simp [Action.andThen, Action.changes, FailsUnchanged]

/-- A program that never fails also never fails after a change. -/
theorem FailsUnchanged.of_true {ε : Type} {program : Program (Except ε α)}
    (never : FailsUnchanged true program) : FailsUnchanged changed program := by
  induction program using byActions generalizing changed with
  | done value =>
    rcases value with cause | value
    · exact absurd never.symm Bool.false_ne_true
    · trivial
  | act action next ih =>
    exact failsUnchanged_andThen.2 fun answer => ih answer (failsUnchanged_andThen.1 never answer)

/-- A program, then another that never fails: the first may have changed something. -/
theorem FailsUnchanged.bind {ε : Type} {program : Program (Except ε α)}
    {f : α → Program (Except ε β)} (first : FailsUnchanged changed program)
    (rest : ∀ value, FailsUnchanged true (f value)) :
    FailsUnchanged changed (program.bind (ExceptT.bindCont f)) := by
  induction program using byActions generalizing changed with
  | done value =>
    rcases value with cause | value
    · exact first
    · exact (rest value).of_true
  | act action next ih =>
    rw [bind_andThen]
    exact failsUnchanged_andThen.2 fun answer => ih answer (failsUnchanged_andThen.1 first answer)

/-- A program that changes nothing, then another that fails only before it changes something. -/
theorem Takes.bind_failsUnchanged {ε : Type} {program : Program (Except ε α)}
    {f : α → Program (Except ε β)} (first : program.Takes (Action.Observes asks))
    (rest : ∀ value, FailsUnchanged false (f value)) :
    FailsUnchanged false (program.bind (ExceptT.bindCont f)) := by
  induction program using byActions with
  | done value =>
    rcases value with cause | value
    · rfl
    · exact rest value
  | act action next ih =>
    obtain ⟨observes, first⟩ := takes_andThen.1 first
    rw [bind_andThen]
    refine failsUnchanged_andThen.2 fun answer => ?_
    rw [observes.changes_eq_false answer]
    exact ih answer (first answer)

/-- A run that ends with an error was made before anything was changed, and leaves the resources and
the shared graphs as they were. -/
theorem FailsUnchanged.run_error {ε : Type} {program : Program (Except ε α)} {view : σ → γ}
    {world after : World σ} {cause : ε} (fails : FailsUnchanged changed program)
    (steady : client.Steady view) (failed : program.run client world = (.error cause, after)) :
    changed = false ∧ view after.resources = view world.resources ∧
      after.graphs = world.graphs := by
  induction program using byActions generalizing changed world with
  | done value =>
    cases failed
    exact ⟨fails, rfl, rfl⟩
  | act action next ih =>
    rw [run_andThen] at failed
    obtain ⟨unchanged, kept, graphs⟩ := ih _ (failsUnchanged_andThen.1 fails _) failed
    obtain ⟨before, unchanged⟩ := Bool.or_eq_false_iff.1 unchanged
    obtain ⟨resources, shared⟩ := Action.perform_of_changes_eq_false steady unchanged
    exact ⟨before, kept.trans resources, graphs.trans shared⟩

end Program

/-! ### Attempts -/

namespace Attempt

/-- The attempt changes nothing, and asks questions only if `asks` is set: see `Action.Observes`. -/
abbrev Observes (asks : Bool) (attempt : Attempt α) : Prop :=
  attempt.Takes (Action.Observes asks)

/-- The attempt fails only before it changes something: see `Program.FailsUnchanged`. -/
def FailsUnchanged (changed : Bool) (attempt : Attempt α) : Prop :=
  Program.FailsUnchanged changed attempt.run

theorem observes_askKind (url : String) : (askKind url).Observes true :=
  ⟨rfl, fun _ _ => trivial⟩

theorem observes_askDownload (url : String) : (askDownload url).Observes true :=
  ⟨rfl, fun _ _ => trivial⟩

theorem observes_readGraph (ref : GraphRef) : (readGraph ref).Observes asks :=
  ⟨trivial, fun _ _ => trivial⟩

theorem observes_freshName : freshName.Observes asks := ⟨trivial, fun _ _ => trivial⟩

theorem observes_kind (url : String) : (kind url).Observes true :=
  (observes_askKind url).bind takes_answered

theorem observes_download (url : String) : (download url).Observes true :=
  (observes_askDownload url).bind takes_answered

theorem failsUnchanged_pure (value : α) : (pure value : Attempt α).FailsUnchanged changed := trivial

theorem failsUnchanged_throw (cause : ResolveError) :
    (throw cause : Attempt α).FailsUnchanged false := rfl

theorem failsUnchanged_write (url : String) (change : Write) :
    (write url change).FailsUnchanged false := by
  rintro (failure | accepted)
  · rfl
  · trivial

theorem failsUnchanged_newGraph (graph : Graph) : (newGraph graph).FailsUnchanged changed :=
  fun _ => trivial

theorem failsUnchanged_changeGraph (ref : GraphRef) (patch : Patch) :
    (changeGraph ref patch).FailsUnchanged changed := trivial

theorem FailsUnchanged.bind {attempt : Attempt α} {f : α → Attempt β}
    (first : attempt.FailsUnchanged changed) (rest : ∀ value, (f value).FailsUnchanged true) :
    (attempt >>= f).FailsUnchanged changed :=
  Program.FailsUnchanged.bind first rest

/-- An attempt that changes nothing leaves the shared graphs as they were. -/
theorem Takes.graphs_eq {attempt : Attempt α} {value : α} {world after : World σ}
    (observes : attempt.Observes asks) (ran : attempt.Returns client world value after) :
    after.graphs = world.graphs := by
  have kept := observes.runIn_keeps (·.graphs = world.graphs)
    (fun _ between observes kept => (observes.graphs_perform client between).trans kept) rfl
  rwa [ran] at kept

/-- An attempt that changes nothing and asks nothing leaves the resources as they were. -/
theorem Takes.resources_eq {attempt : Attempt α} {value : α} {world after : World σ}
    (observes : attempt.Observes false) (ran : attempt.Returns client world value after) :
    after.resources = world.resources := by
  have kept := observes.runIn_keeps (·.resources = world.resources)
    (fun _ between observes kept => (observes.resources_perform client between).trans kept) rfl
  rwa [ran] at kept

theorem Takes.bind_failsUnchanged {attempt : Attempt α} {f : α → Attempt β}
    (first : attempt.Observes true) (rest : ∀ value, (f value).FailsUnchanged false) :
    (attempt >>= f).FailsUnchanged false :=
  Program.Takes.bind_failsUnchanged first rest

end Attempt

/-! ### Queries -/

open Attempt

theorem observes_downloadAll (urls : List String) : (downloadAll urls).Observes true := by
  unfold downloadAll
  generalize Graph.empty = merged
  induction urls generalizing merged with
  | nil => exact takes_pure merged
  | cons url rest ih =>
    rw [List.foldlM_cons]
    exact ((observes_download url).bind fun _ => takes_pure _).bind ih

theorem lookUpInstance_failsUnchanged (cls target : String) (node : Node) :
    (lookUpInstance cls target node).FailsUnchanged false := by
  refine (observes_kind target).bind_failsUnchanged fun kind => ?_
  refine (observes_askDownload _).bind_failsUnchanged fun answer => ?_
  rcases answer with failure | graph
  · dsimp only
    split
    · exact failsUnchanged_pure none
    · exact failsUnchanged_throw _
  · dsimp only
    split
    · exact (failsUnchanged_newGraph graph).bind fun _ => failsUnchanged_pure _
    · exact failsUnchanged_pure none

theorem lookUpCollection_failsUnchanged (cls target : String) :
    (lookUpCollection cls target).FailsUnchanged false := by
  refine (observes_kind target).bind_failsUnchanged fun kind => ?_
  refine (observes_download target).bind_failsUnchanged fun resource => ?_
  cases kind with
  | document => exact (failsUnchanged_newGraph resource).bind fun _ => failsUnchanged_pure _
  | container =>
    refine (observes_downloadAll _).bind_failsUnchanged fun graph => ?_
    exact (failsUnchanged_newGraph graph).bind fun _ => failsUnchanged_pure _

theorem lookUp_failsUnchanged (request : Request) (cls target : String) (node : Option Node) :
    (lookUp request cls target node).FailsUnchanged false := by
  cases node with
  | some node => exact (lookUpInstance_failsUnchanged cls target node).bind fun _ => failsUnchanged_pure _
  | none => exact (lookUpCollection_failsUnchanged cls target).bind fun _ => failsUnchanged_pure _

theorem entryPoint_failsUnchanged (resolver : Resolver) (request : Request) :
    (entryPoint resolver request).FailsUnchanged false := by
  rw [entryPoint_eq]
  refine (takes_lift _).bind_failsUnchanged fun cls => ?_
  refine (takes_lift _).bind_failsUnchanged fun target => ?_
  refine (takes_lift _).bind_failsUnchanged fun node => ?_
  exact lookUp_failsUnchanged request cls target node

theorem identifierValue_failsUnchanged (request : Request) :
    (identifierValue request).FailsUnchanged false :=
  (takes_lift _).bind_failsUnchanged fun _ => failsUnchanged_pure _

theorem scalarProperty_failsUnchanged (request : Request) (property : String) (scalar : Scalar) :
    (scalarProperty request property scalar).FailsUnchanged false := by
  refine (takes_lift _).bind_failsUnchanged fun context => ?_
  cases context.subject with
  | none => exact failsUnchanged_pure _
  | some node => exact (observes_readGraph _).bind_failsUnchanged fun _ => failsUnchanged_pure _

theorem relationProperty_failsUnchanged (resolver : Resolver) (request : Request)
    (property : String) : (relationProperty resolver request property).FailsUnchanged false := by
  refine (takes_lift _).bind_failsUnchanged fun context => ?_
  cases context.subject with
  | none => exact failsUnchanged_pure _
  | some node => exact (observes_readGraph _).bind_failsUnchanged fun _ => failsUnchanged_pure _

/-! ### Mutations -/

theorem observes_nameOrFresh (values : List (String × Json)) :
    (nameOrFresh values).Observes asks := by
  refine (takes_lift _).bind fun slug => ?_
  cases slug with
  | some slug => exact takes_pure slug
  | none => exact observes_freshName

theorem observes_mintSubject (document : String) (values : List (String × Json)) :
    (mintSubject document values).Observes asks := by
  refine (takes_lift _).bind fun given => ?_
  cases given with
  | some identifier => exact takes_lift _
  | none => exact (observes_nameOrFresh values).bind fun _ => takes_lift _

theorem observes_mintDocument (container : String) (values : List (String × Json)) :
    (mintDocument container values).Observes asks := by
  refine (takes_lift _).bind fun given => ?_
  cases given with
  | some identifier =>
    refine (observes_mintSubject container values).bind fun subject => ?_
    dsimp only
    split
    · exact takes_throw _
    · exact takes_pure _
  | none =>
    refine (observes_nameOrFresh values).bind fun name => ?_
    dsimp only
    split
    · exact takes_throw _
    · exact (takes_lift _).bind fun _ => takes_pure _

theorem observes_ensureAbsent (url : String) : (ensureAbsent url).Observes true := by
  refine (observes_askKind url).bind fun answer => ?_
  rcases answer with failure | kind
  · dsimp only
    split
    · exact takes_pure ()
    · exact takes_throw _
  · exact takes_throw _

theorem writeNew_failsUnchanged (cls : String) (type : InputType) (values : List (String × Json))
    (kind : ResourceKind) (document subject : String) :
    (writeNew cls type values kind document subject).FailsUnchanged false := by
  refine (takes_lift _).bind_failsUnchanged fun triples => ?_
  refine (failsUnchanged_write document _).bind fun _ => ?_
  exact (failsUnchanged_newGraph _).bind fun _ => failsUnchanged_pure _

theorem create_failsUnchanged (resolver : Resolver) (request : Request) :
    (create resolver request).FailsUnchanged false := by
  rw [create_eq]
  refine (takes_lift _).bind_failsUnchanged fun cls => ?_
  refine (takes_lift _).bind_failsUnchanged fun target => ?_
  refine (takes_lift _).bind_failsUnchanged fun (type, values) => ?_
  refine (observes_kind target).bind_failsUnchanged fun kind => ?_
  cases kind with
  | container =>
    refine (observes_mintDocument target values).bind_failsUnchanged fun (document, subject) => ?_
    refine (observes_ensureAbsent document).bind_failsUnchanged fun _ => ?_
    exact writeNew_failsUnchanged cls type values .container document subject
  | document =>
    refine (observes_mintSubject target values).bind_failsUnchanged fun subject => ?_
    exact writeNew_failsUnchanged cls type values .document target subject

theorem mutate_failsUnchanged (resolver : Resolver) (request : Request) :
    (mutate resolver request).FailsUnchanged false := by
  refine (takes_lift _).bind_failsUnchanged fun cls => ?_
  refine (takes_lift _).bind_failsUnchanged fun target => ?_
  refine (takes_lift _).bind_failsUnchanged fun iri => ?_
  exact (lookUpInstance_failsUnchanged cls target _).bind fun _ => failsUnchanged_pure _

theorem applyPatch_failsUnchanged (context : Context) (patch : Patch) :
    (applyPatch context patch).FailsUnchanged false := by
  unfold applyPatch
  split
  · exact failsUnchanged_pure ()
  · exact (failsUnchanged_write context.url _).bind fun _ => failsUnchanged_changeGraph _ _

theorem sendRemoval_failsUnchanged (context : Context) (deletes : List Triple) :
    (sendRemoval context deletes).FailsUnchanged false := by
  unfold sendRemoval
  split
  · exact failsUnchanged_write context.url .delete
  · split
    · exact failsUnchanged_pure ()
    · exact failsUnchanged_write context.url _

theorem detach_failsUnchanged (context : Context) (subject : String) (graph : Graph) :
    (detach context subject graph).FailsUnchanged true := by
  refine (failsUnchanged_changeGraph _ _).bind fun _ => ?_
  exact (failsUnchanged_newGraph _).bind fun _ => failsUnchanged_pure _

theorem delete_failsUnchanged (request : Request) : (delete request).FailsUnchanged false := by
  rw [delete_eq]
  refine (takes_lift _).bind_failsUnchanged fun context => ?_
  refine (takes_lift _).bind_failsUnchanged fun subject => ?_
  refine (observes_readGraph _).bind_failsUnchanged fun graph => ?_
  exact (sendRemoval_failsUnchanged context _).bind fun _ => detach_failsUnchanged context subject graph

theorem update_failsUnchanged (resolver : Resolver) (request : Request) :
    (update resolver request).FailsUnchanged false := by
  refine (takes_lift _).bind_failsUnchanged fun context => ?_
  refine (takes_lift _).bind_failsUnchanged fun subject => ?_
  refine (takes_ofSchema _).bind_failsUnchanged fun entity => ?_
  refine (takes_lift _).bind_failsUnchanged fun (type, values) => ?_
  refine (observes_readGraph _).bind_failsUnchanged fun graph => ?_
  refine (takes_lift _).bind_failsUnchanged fun patch => ?_
  exact (applyPatch_failsUnchanged context patch).bind fun _ => failsUnchanged_pure _

theorem observes_newLinkPatch (resolver : Resolver) (request : Request) (context : Context)
    (subject property : String) (field : Field) (deletes : List Triple) :
    (newLinkPatch resolver request context subject property field deletes).Observes asks := by
  refine (takes_lift _).bind fun cls => ?_
  refine (takes_lift _).bind fun (type, values) => ?_
  refine (observes_mintSubject context.url values).bind fun child => ?_
  exact (takes_lift _).bind fun _ => takes_pure _

theorem observes_relationPatch (resolver : Resolver) (request : Request) (context : Context)
    (subject property : String) (field : Field) (links : List Triple) (change : RelationChange) :
    (relationPatch resolver request context subject property field links change).Observes asks := by
  cases change with
  | set | add => exact observes_newLinkPatch resolver request context subject property field _
  | clear => exact takes_pure _
  | link | remove | unlink => exact (takes_lift _).bind fun _ => takes_pure _

theorem changeRelation_failsUnchanged (resolver : Resolver) (request : Request)
    (change : RelationChange) (suffix : String) :
    (changeRelation resolver request change suffix).FailsUnchanged false := by
  refine (takes_lift _).bind_failsUnchanged fun context => ?_
  refine (takes_lift _).bind_failsUnchanged fun subject => ?_
  refine (takes_lift _).bind_failsUnchanged fun (field, property) => ?_
  refine (observes_readGraph _).bind_failsUnchanged fun graph => ?_
  refine (observes_relationPatch _ _ _ _ _ _ _ _).bind_failsUnchanged fun patch => ?_
  exact (applyPatch_failsUnchanged context patch).bind fun _ => failsUnchanged_pure _

theorem resolveMutation_failsUnchanged (resolver : Resolver) (request : Request) :
    (resolveMutation resolver request).FailsUnchanged false := by
  unfold resolveMutation
  split
  · exact create_failsUnchanged resolver request
  · exact mutate_failsUnchanged resolver request
  · exact delete_failsUnchanged request
  · exact update_failsUnchanged resolver request
  · exact changeRelation_failsUnchanged resolver request _ _
  · exact entryPoint_failsUnchanged resolver request

/-- No path of the resolution of a field fails after a change. -/
theorem resolve_failsUnchanged (resolver : Resolver) (request : Request) :
    (resolver.resolve request).FailsUnchanged false := by
  unfold Resolver.resolve
  split
  · exact identifierValue_failsUnchanged request
  · split
    · exact scalarProperty_failsUnchanged request _ _
    · exact relationProperty_failsUnchanged resolver request _
  · split
    · exact resolveMutation_failsUnchanged resolver request
    · exact entryPoint_failsUnchanged resolver request

/-- A field that fails leaves what is known of the resources and every shared graph as they were,
whichever call was refused. -/
theorem resolve_error_unchanged {view : σ → γ} {resolver : Resolver} {request : Request}
    {world after : World σ} {cause : ResolveError} (steady : client.Steady view)
    (failed : (resolver.resolve request).runIn client world = (.error cause, after)) :
    view after.resources = view world.resources ∧ after.graphs = world.graphs :=
  (Program.FailsUnchanged.run_error (resolve_failsUnchanged resolver request) steady failed).2

open AddressBook

/-- The client of the store while every change is refused. -/
def busy : Client Store :=
  Store.client.refusing fun call =>
    if call.isWrite then some (.status call.url 503 "Service Unavailable") else none

/-- A contact whose document is refused is in no document and in no graph. -/
theorem resolve_error_unchanged_busy :
    ∃ cause after,
      (resolver.resolve (creation [(slugField, .string "joe")])).runIn busy stored =
        (.error cause, after) ∧
      after.resources.documents = stored.resources.documents ∧
      after.resources.containers = stored.resources.containers ∧
      after.graphs = stored.graphs := by
  obtain ⟨after, failed⟩ : ∃ after,
      (resolver.resolve (creation [(slugField, .string "joe")])).runIn busy stored =
        (.error (.transport (.status "http://example.org/contacts/joe" 503 "Service Unavailable")),
          after) := ⟨_, rfl⟩
  have steady : busy.Steady fun store => (store.documents, store.containers) :=
    ⟨fun _ _ => rfl, fun _ _ => rfl, fun _ _ _ _ _ => rfl⟩
  obtain ⟨resources, graphs⟩ := resolve_error_unchanged steady failed
  exact ⟨_, after, failed, congrArg Prod.fst resources, congrArg Prod.snd resources, graphs⟩

end LinkedShapes.Resolution
