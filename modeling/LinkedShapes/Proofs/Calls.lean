import LinkedShapes.Proofs.WriteThrough

/-!
# The calls that a program makes

`Makes` says which calls a program can make, whatever is answered to them, and `calls` lists those that
it makes in a run. Both are read off the program, step by step; what every allowed call keeps is then
kept by a run, one that fails included.

## Main statements

* `Takes.runIn_keeps_resources`: a property of the resources that every allowed call keeps is kept by a run.
* `Takes.of_mem_calls`: the calls of a run are among those that the program can make.
* `calls_run`: a store notes the calls of a run.
* `Idles.bind`: attempts that make no call and change nothing, one after another, do so together.
* `Request.Edits.makes`, `makes_delete`: a change of an entity calls for its document only.
-/

namespace LinkedShapes.Ldp

/-- Every call of a kind keeps a property of the state of the client. -/
structure Client.Keeps {σ : Type} (client : Client σ) (allowed : Call → Prop) (P : σ → Prop) :
    Prop where
  /-- Asking for a kind keeps it. -/
  kind : ∀ url state, allowed ⟨url, .kind⟩ → P state → P (client.kind url state).2
  /-- Asking for triples keeps it. -/
  download : ∀ url state, allowed ⟨url, .download⟩ → P state → P (client.download url state).2
  /-- A change keeps it, accepted or not. -/
  write : ∀ url change state, allowed ⟨url, .write change⟩ → P state →
    P (client.write url change state).2

end LinkedShapes.Ldp

namespace LinkedShapes.Resolution

open Rdf Ldp Schema

variable {σ α β : Type} {client : Client σ} {allowed : Call → Prop}

namespace Action

/-- The call that an action makes, if it makes one. -/
def call? : Action → Option Call
  | .kind url => some ⟨url, .kind⟩
  | .download url => some ⟨url, .download⟩
  | .write url change => some ⟨url, .write change⟩
  | .newGraph _ | .readGraph _ | .changeGraph _ _ | .freshName => none

/-- The call of the action is allowed, if it makes one. -/
def Makes (allowed : Call → Prop) (action : Action) : Prop :=
  ∀ call, action.call? = some call → allowed call

variable {action : Action}

/-- An action that changes nothing makes a call only if it asks a question. -/
theorem Observes.makes {asks : Bool} (observes : action.Observes asks)
    (questions : asks = true → ∀ url, allowed ⟨url, .kind⟩ ∧ allowed ⟨url, .download⟩) :
    action.Makes allowed := by
  intro call made
  cases action with
  | kind url =>
    obtain rfl := Option.some.inj made
    exact (questions observes url).1
  | download url =>
    obtain rfl := Option.some.inj made
    exact (questions observes url).2
  | write | newGraph | changeGraph => exact observes.elim
  | readGraph | freshName => cases made

/-- A property of the resources that every allowed call keeps is kept by an action. -/
theorem Makes.perform {P : σ → Prop} {world : World σ} (makes : action.Makes allowed)
    (keeps : client.Keeps allowed P) (holds : P world.resources) :
    P (action.perform client world).2.resources := by
  cases action with
  | kind url => exact keeps.kind url _ (makes _ rfl) holds
  | download url => exact keeps.download url _ (makes _ rfl) holds
  | write url change => exact keeps.write url change _ (makes _ rfl) holds
  | newGraph | readGraph | changeGraph | freshName => exact holds

/-- A store notes the call of an action. -/
theorem calls_perform (world : World Store) :
    (action.perform Store.client world).2.resources.calls =
      world.resources.calls ++ action.call?.toList := by
  cases action with
  | kind | download => rfl
  | write url change => exact Store.calls_client_write
  | newGraph | readGraph | changeGraph | freshName => exact (List.append_nil _).symm

end Action

namespace Program

/-- The calls that a run of the program makes, in order. -/
def calls (client : Client σ) (program : Program α) (world : World σ) : List Call :=
  match program with
  | .done _ => []
  | .kind url next =>
    let (answer, resources) := client.kind url world.resources
    ⟨url, .kind⟩ :: (next answer).calls client { world with resources }
  | .download url next =>
    let (answer, resources) := client.download url world.resources
    ⟨url, .download⟩ :: (next answer).calls client { world with resources }
  | .write url change next =>
    let (answer, resources) := client.write url change world.resources
    ⟨url, .write change⟩ :: (next answer).calls client { world with resources }
  | .newGraph graph next =>
    let (ref, world) := world.addGraph graph
    (next ref).calls client world
  | .readGraph ref next => (next (world.graph ref)).calls client world
  | .changeGraph ref patch next => next.calls client (world.patchGraph ref patch)
  | .freshName next =>
    let (name, names) := world.names.next
    (next name).calls client { world with names }

theorem calls_andThen {action : Action} {next : action.Answer → Program α} {world : World σ} :
    (action.andThen next).calls client world = action.call?.toList ++
      (next (action.perform client world).1).calls client (action.perform client world).2 := by
  cases action <;> rfl

/-- One program after another makes the calls of both. -/
theorem calls_bind (program : Program α) (f : α → Program β) (world : World σ) :
    (program.bind f).calls client world = program.calls client world ++
      (f (program.run client world).1).calls client (program.run client world).2 := by
  induction program using byActions generalizing world with
  | done value => rfl
  | act action next ih =>
    rw [bind_andThen, calls_andThen, calls_andThen, run_andThen, ih, List.append_assoc]

/-- The calls of a run are allowed. -/
theorem Takes.of_mem_calls {program : Program α} {world : World σ} {call : Call}
    (makes : program.Takes (Action.Makes allowed)) (mem : call ∈ program.calls client world) :
    allowed call := by
  induction program using byActions generalizing world with
  | done value => cases mem
  | act action next ih =>
    obtain ⟨isAllowed, makes⟩ := takes_andThen.1 makes
    rw [calls_andThen, List.mem_append] at mem
    rcases mem with mem | mem
    · exact isAllowed call (Option.mem_toList.1 mem)
    · exact ih _ (makes _) mem

/-- A store notes the calls of a run after those that it noted before. -/
theorem calls_run (program : Program α) (world : World Store) :
    (program.run Store.client world).2.resources.calls =
      world.resources.calls ++ program.calls Store.client world := by
  induction program using byActions generalizing world with
  | done value => exact (List.append_nil _).symm
  | act action next ih =>
    rw [run_andThen, calls_andThen, ih, Action.calls_perform, List.append_assoc]

end Program

namespace Attempt

/-- Every call that the attempt can make is allowed. -/
abbrev Makes (allowed : Call → Prop) (attempt : Attempt α) : Prop :=
  attempt.Takes (Action.Makes allowed)

theorem makes_newGraph (graph : Graph) : (newGraph graph).Makes allowed := takes_newGraph nofun

theorem makes_changeGraph (ref : GraphRef) (patch : Patch) : (changeGraph ref patch).Makes allowed :=
  takes_changeGraph nofun

theorem makes_write {url : String} {change : Write} (isAllowed : allowed ⟨url, .write change⟩) :
    (write url change).Makes allowed := by
  refine takes_write fun call made => ?_
  obtain rfl := Option.some.inj made
  exact isAllowed

/-- An attempt that changes nothing and asks nothing makes no call, so whatever is allowed. -/
theorem Observes.makes {attempt : Attempt α} (observes : attempt.Observes false) :
    attempt.Makes allowed :=
  observes.mono fun _ observes => observes.makes fun asks => absurd asks Bool.false_ne_true

/-- A property of the resources that every allowed call keeps is kept by a run. -/
theorem Takes.runIn_keeps_resources {attempt : Attempt α} {P : σ → Prop} {world : World σ}
    (makes : attempt.Makes allowed) (keeps : client.Keeps allowed P) (holds : P world.resources) :
    P (attempt.runIn client world).2.resources :=
  makes.runIn_keeps (fun world => P world.resources)
    (fun _ _ makes holds => makes.perform keeps holds) holds

/-- The calls that a run of the attempt makes, in order. -/
def calls (client : Client σ) (attempt : Attempt α) (world : World σ) : List Call :=
  Program.calls client attempt.run world

/-- One attempt after another makes the calls of the second only if the first does not fail. -/
theorem calls_bind (attempt : Attempt α) (next : α → Attempt β) (world : World σ) :
    (attempt >>= next).calls client world = attempt.calls client world ++
      match attempt.runIn client world with
      | (.ok value, between) => (next value).calls client between
      | (.error _, _) => [] := by
  have bound : (attempt >>= next).calls client world = attempt.calls client world ++
      (ExceptT.bindCont next (attempt.runIn client world).1).calls client
        (attempt.runIn client world).2 :=
    Program.calls_bind attempt.run (ExceptT.bindCont next) world
  rw [bound]
  rcases attempt.runIn client world with ⟨_ | _, _⟩ <;> rfl

theorem Takes.of_mem_calls {attempt : Attempt α} {world : World σ} {call : Call}
    (makes : attempt.Makes allowed) (mem : call ∈ attempt.calls client world) : allowed call :=
  Program.Takes.of_mem_calls makes mem

/-- An attempt that changes nothing and asks nothing makes no call. -/
theorem Takes.calls_eq_nil {attempt : Attempt α} (observes : attempt.Observes false)
    (world : World σ) : attempt.calls client world = [] :=
  have none : attempt.Makes fun _ => False := Observes.makes observes
  List.eq_nil_iff_forall_not_mem.2 fun _ mem => none.of_mem_calls mem

/-! ### Attempts that do nothing -/

/-- The attempt ends with an outcome without a call, and leaves the world as it was. -/
structure Idles (client : Client σ) (attempt : Attempt α) (world : World σ)
    (outcome : Except ResolveError α) : Prop where
  /-- How the attempt ends, and where. -/
  ends : attempt.runIn client world = (outcome, world)
  /-- No call is made. -/
  calls : attempt.calls client world = []

section Idles

variable {world : World σ} {attempt : Attempt α} {next : α → Attempt β}

theorem idles_pure (value : α) : (pure value : Attempt α).Idles client world (.ok value) :=
  ⟨rfl, rfl⟩

theorem idles_lift (value : Except ResolveError α) :
    (liftM value : Attempt α).Idles client world value :=
  ⟨rfl, rfl⟩

theorem idles_readGraph (ref : GraphRef) :
    (readGraph ref).Idles client world (.ok (world.graph ref)) :=
  ⟨rfl, rfl⟩

theorem Idles.bind {value : α} {outcome : Except ResolveError β}
    (first : attempt.Idles client world (.ok value))
    (rest : (next value).Idles client world outcome) :
    (attempt >>= next).Idles client world outcome where
  ends := by rw [runIn_bind, first.ends]; exact rest.ends
  calls := by rw [calls_bind, first.calls, first.ends]; exact rest.calls

theorem idles_lift_bind {value : Except ResolveError α} {a : α} {outcome : Except ResolveError β}
    (known : value = .ok a) (rest : (next a).Idles client world outcome) :
    (liftM value >>= next).Idles client world outcome :=
  Idles.bind (known ▸ idles_lift value) rest

/-- The attempt fails, without a call, and leaves the world as it was. -/
def Refuses (client : Client σ) (attempt : Attempt α) (world : World σ) : Prop :=
  ∃ cause, attempt.Idles client world (.error cause)

theorem Idles.bind_refuses {value : α} (first : attempt.Idles client world (.ok value))
    (rest : (next value).Refuses client world) : (attempt >>= next).Refuses client world :=
  rest.imp fun _ => first.bind

/-- What is known without a call is an error, or followed by an attempt that fails. -/
theorem refuses_lift_bind {value : Except ResolveError α}
    (rest : ∀ a, value = .ok a → (next a).Refuses client world) :
    (liftM value >>= next).Refuses client world := by
  cases value with
  | error cause => exact ⟨cause, rfl, rfl⟩
  | ok a => exact rest a rfl

end Idles

end Attempt

open Attempt

/-! ### The calls of a change -/

section Changes

variable {resolver : Resolver} {request : Request} {context : Context}

theorem makes_applyPatch (patch : Patch)
    (isAllowed : allowed ⟨context.url, .write (.patch patch)⟩) :
    (applyPatch context patch).Makes allowed := by
  unfold applyPatch
  split
  · exact takes_pure ()
  · exact (makes_write isAllowed).bind fun _ => makes_changeGraph _ _

/-- An update and a change of a relation send patches to the document of the entity. -/
theorem Request.Edits.makes (edits : request.Edits context)
    (patches : ∀ patch, allowed ⟨context.url, .write (.patch patch)⟩) :
    (resolver.resolve request).Makes allowed := by
  rcases edits.mutates with updates | ⟨change, changes⟩
  · rw [resolve_of_mutates updates]
    refine takes_lift_bind fun _ given => ?_
    obtain rfl := Except.ok.inj ((Request.context_of_parent edits.parent).symm.trans given)
    refine (takes_lift _).bind fun subject => ?_
    refine (takes_ofSchema _).bind fun entity => ?_
    refine (takes_lift _).bind fun (type, values) => ?_
    refine (observes_readGraph _).makes.bind fun graph => ?_
    refine (takes_lift _).bind fun patch => ?_
    exact (makes_applyPatch patch (patches patch)).bind fun _ => takes_pure _
  · rw [resolve_of_mutates changes]
    refine takes_lift_bind fun _ given => ?_
    obtain rfl := Except.ok.inj ((Request.context_of_parent edits.parent).symm.trans given)
    refine (takes_lift _).bind fun subject => ?_
    refine (takes_lift _).bind fun (field, property) => ?_
    refine (observes_readGraph _).makes.bind fun graph => ?_
    refine (observes_relationPatch _ _ _ _ _ _ _ _).makes.bind fun patch => ?_
    exact (makes_applyPatch patch (patches patch)).bind fun _ => takes_pure _

/-- A removal removes the document of the entity or patches it. -/
theorem makes_delete (parent : request.parent = some context)
    (patches : ∀ patch, allowed ⟨context.url, .write (.patch patch)⟩)
    (removes : allowed ⟨context.url, .write .delete⟩) : (delete request).Makes allowed := by
  have sent (deletes : List Triple) : (sendRemoval context deletes).Makes allowed := by
    unfold sendRemoval
    split
    · exact makes_write removes
    · split
      · exact takes_pure ()
      · exact makes_write (patches _)
  rw [delete_eq]
  refine takes_lift_bind fun _ given => ?_
  obtain rfl := Except.ok.inj ((Request.context_of_parent parent).symm.trans given)
  refine (takes_lift _).bind fun subject => ?_
  refine (observes_readGraph _).makes.bind fun graph => ?_
  refine (sent _).bind fun _ => (makes_changeGraph _ _).bind fun _ => ?_
  exact (makes_newGraph _).bind fun _ => takes_pure _

end Changes

end LinkedShapes.Resolution
