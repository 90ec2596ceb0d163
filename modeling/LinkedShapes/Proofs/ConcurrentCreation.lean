import LinkedShapes.Proofs.Creation
import LinkedShapes.Proofs.Interleaving

/-!
# Creations at the same time

A creation in a container asks whether there is something at the URL of its new document, and puts the
document if there is nothing. These are two calls, and between them others may put a document at the same
URL: the call that puts a document replaces what is there, and nothing keeps a URL for the one who asked
first. So of several creations that name one document, more than one can be answered, and the document
holds what was put last. It takes that all of them have asked before any of them has put: a creation that
asks later fails.

## Main statements

* `create_until_asks`: the calls that a creation makes, as a description of its program.
* `Stage.step`: how one step of a creation takes it from one stage to the next.
* `Underway.step`: what a step of one of several creations keeps of all of them.
* `creations_in_turns`: what several creations have done when they have taken turns in any order.
* `creations_overwrite`: two creations of one document that are both answered.
-/

namespace LinkedShapes.Ldp

open Rdf

/-- The graph that the call puts at a URL, if it puts one. -/
def Call.putAt? (url : String) (call : Call) : Option Graph :=
  match call.operation with
  | .write (.put graph) => if call.url = url then some graph else none
  | _ => none

theorem Call.putAt?_eq_some_iff {url : String} {call : Call} {graph : Graph} :
    call.putAt? url = some graph ↔ call = ⟨url, .write (.put graph)⟩ := by
  rcases call with ⟨place, _ | _ | (_ | put | _)⟩ <;> simp [Call.putAt?]

/-- The call asks for a kind or puts a document. -/
def Call.AsksOrPuts (call : Call) : Prop :=
  call.operation = .kind ∨ ∃ graph, call.operation = .write (.put graph)

end LinkedShapes.Ldp

namespace LinkedShapes.Resolution

open Rdf Ldp Schema

/-! ### On the way to the next call -/

section OnTheWay

variable {σ α β ε : Type} {P : Program (Except ε β) → Prop}

/-- The program fails or comes to a point as described; on the way there it makes no call and no
graph. -/
inductive Program.Until (P : Program (Except ε β) → Prop) : Program (Except ε β) → Prop
  /-- It has failed. -/
  | failed (cause : ε) : Until P (.done (.error cause))
  /-- It is there. -/
  | here {program : Program (Except ε β)} (holds : P program) : Until P program
  /-- It reads a graph first. -/
  | readGraph {ref : GraphRef} {next : Graph → Program (Except ε β)}
      (rest : ∀ graph, Until P (next graph)) : Until P (.readGraph ref next)
  /-- It draws a name first. -/
  | freshName {next : String → Program (Except ε β)}
      (rest : ∀ name, Until P (next name)) : Until P (.freshName next)

/-- A program that only observes, and what follows it. -/
theorem Program.Takes.bind_until {program : Program (Except ε α)} {f : α → Program (Except ε β)}
    (first : program.Takes (Action.Observes false)) (rest : ∀ value, (f value).Until P) :
    (program.bind (ExceptT.bindCont f)).Until P := by
  induction program using byActions with
  | done value =>
    rcases value with cause | value
    · exact .failed cause
    · exact rest value
  | act action next ih =>
    obtain ⟨observes, first⟩ := takes_andThen.1 first
    rw [bind_andThen]
    cases action with
    | kind | download => exact absurd observes Bool.false_ne_true
    | write | newGraph | changeGraph => exact observes.elim
    | readGraph ref => exact .readGraph fun graph => ih graph (first graph)
    | freshName => exact .freshName fun name => ih name (first name)

/-- A program that is not there yet makes no call with its next step, and is still on the way. -/
theorem Program.Until.step {program : Program (Except ε β)} (onTheWay : program.Until P)
    (client : Client σ) (world : World σ) : P program ∨
      (program.step client world).call? = none ∧ (program.step client world).rest.Until P := by
  cases onTheWay with
  | failed cause => exact .inr ⟨rfl, .failed cause⟩
  | here holds => exact .inl holds
  | readGraph rest => exact .inr ⟨rfl, rest _⟩
  | freshName rest => exact .inr ⟨rfl, rest _⟩

namespace Attempt

/-- The attempt fails or comes to a point as described: see `Program.Until`. -/
def Until (P : Program (Except ResolveError β) → Prop) (attempt : Attempt β) : Prop :=
  Program.Until P attempt.run

variable {P : Program (Except ResolveError β) → Prop}

theorem Takes.bind_until {attempt : Attempt α} {f : α → Attempt β}
    (first : attempt.Observes false) (rest : ∀ value, (f value).Until P) :
    (attempt >>= f).Until P :=
  Program.Takes.bind_until first rest

theorem until_lift_bind {value : Except ResolveError α} {f : α → Attempt β}
    (rest : ∀ a, value = .ok a → (f a).Until P) : (liftM value >>= f).Until P := by
  cases value with
  | ok a => exact rest a rfl
  | error cause => exact .failed cause

end Attempt

end OnTheWay

/-! ### The stages of a creation -/

/-- The graph of a new entity: its class and what the input states of it, and nothing else. -/
def Resolver.States (resolver : Resolver) (request : Request) (subject : String) (graph : Graph) :
    Prop :=
  ∃ cls type values stated, resolver.classOf request.field.type.name = .ok cls ∧
    inputObject resolver request = .ok (type, values) ∧
    statedTriples subject type values = .ok stated ∧
    graph = Graph.ofList (Graph.typing (.iri subject) cls :: stated)

theorem Resolver.States.eq {resolver : Resolver} {request : Request} {subject : String}
    {graph graph' : Graph} (states : resolver.States request subject graph)
    (states' : resolver.States request subject graph') : graph = graph' := by
  obtain ⟨cls, type, values, stated, ofClass, input, states, rfl⟩ := states
  obtain ⟨cls', type', values', stated', ofClass', input', states', rfl⟩ := states'
  obtain rfl := Except.ok.inj (ofClass.symm.trans ofClass')
  obtain ⟨rfl, rfl⟩ := Prod.mk.inj (Except.ok.inj (input.symm.trans input'))
  obtain rfl := Except.ok.inj (states.symm.trans states')
  rfl

/-- The request is a creation in a target. -/
structure Request.CreatesIn (request : Request) (resolver : Resolver) (target : String) : Prop where
  /-- It is a creation. -/
  mutates : request.Mutates .create
  /-- The entities of its class are kept in the target. -/
  kept : ∃ cls, resolver.classOf request.field.type.name = .ok cls ∧
    resolver.target cls = .ok target

section Stages

variable {resolver : Resolver} {request : Request} {target document subject : String}
  {graph : Graph} {program : Program (Except ResolveError Resolved)} {calls : List Call}
  {Free Free' : String → Prop} {world : World Store}

/-- The program puts the document of a new entity, and is then answered with the entity. -/
inductive Puts (resolver : Resolver) (request : Request) (document : String) :
    Program (Except ResolveError Resolved) → Prop
  /-- The document has what the request states. -/
  | write {graph : Graph} {subject : String} {next : Except Failure Unit → _}
      (states : resolver.States request subject graph)
      (accepted : next (.ok ()) = .newGraph graph fun ref =>
        .done (.ok (.node (.created document subject ref)))) :
      Puts resolver request document (.write document (.put graph) next)

/-- The program asks whether there is a resource at the URL of the new document, fails if there is one,
and else puts the document. -/
inductive Checks (resolver : Resolver) (request : Request) :
    Program (Except ResolveError Resolved) → Prop
  /-- The URL is that of the document which is put. -/
  | kind {document : String} {next : Except Failure ResourceKind → _}
      (taken : ∀ kind, ∃ cause, next (.ok kind) = .done (.error cause))
      (free : ∀ failure, (next (.error failure)).Until (Puts resolver request document)) :
      Checks resolver request (.kind document next)

/-- The program asks for the kind of its target, and goes on as described if it is a container. -/
inductive Asks (resolver : Resolver) (request : Request) (target : String) :
    Program (Except ResolveError Resolved) → Prop
  /-- The target is asked for first. -/
  | kind {next : Except Failure ResourceKind → _}
      (container : (next (.ok .container)).Until (Checks resolver request)) :
      Asks resolver request target (.kind target next)

/-- A creation asks for the kind of its target. In a container it then asks for the document, and puts
it. -/
theorem create_until_asks (creates : request.CreatesIn resolver target) :
    (resolver.resolve request).Until (Asks resolver request target) := by
  obtain ⟨mutates, cls, ofClass, kept⟩ := creates
  rw [resolve_of_mutates mutates, performedBy, create_eq]
  refine Attempt.until_lift_bind fun _ found => ?_
  obtain rfl := Except.ok.inj (ofClass.symm.trans found)
  refine Attempt.until_lift_bind fun _ found => ?_
  obtain rfl := Except.ok.inj (kept.symm.trans found)
  refine Attempt.until_lift_bind fun (type, values) input => ?_
  refine .here (.kind ?_)
  refine (observes_mintDocument target values).bind_until fun (document, subject) => ?_
  refine .here (.kind (fun kind => ⟨_, rfl⟩) fun failure => ?_)
  -- what follows a failure that is not the answer that there is nothing is a failure
  have absent (rest : (writeNew cls type values .container document subject).Until
      (Puts resolver request document)) :
      Attempt.Until (Puts resolver request document)
        ((if failure.isNotFound then pure () else throw (.transport failure)) >>= fun _ =>
          writeNew cls type values .container document subject) := by
    split
    · exact rest
    · exact .failed _
  refine absent (Attempt.until_lift_bind fun stated states => ?_)
  refine .here (.write ⟨cls, type, values, stated, ofClass, input, states, rfl⟩ rfl)

/-- How far a creation has come: the calls that it has made, and what is left of it. `Free` is what is
known of the URL of its document once there was found to be nothing. -/
inductive Stage (resolver : Resolver) (request : Request) (target : String) (Free : String → Prop) :
    List Call → Program (Except ResolveError Resolved) → Prop
  /-- It has made no call. -/
  | asking {program : Program (Except ResolveError Resolved)}
      (left : program.Until (Asks resolver request target)) :
      Stage resolver request target Free [] program
  /-- It has learned that its target is a container. -/
  | checking {program : Program (Except ResolveError Resolved)}
      (left : program.Until (Checks resolver request)) :
      Stage resolver request target Free [⟨target, .kind⟩] program
  /-- There was a resource where it would have put its document. -/
  | refused {document : String} {cause : ResolveError} :
      Stage resolver request target Free [⟨target, .kind⟩, ⟨document, .kind⟩] (.done (.error cause))
  /-- There was nothing where it is going to put its document. -/
  | putting {document : String} {program : Program (Except ResolveError Resolved)}
      (free : Free document) (left : program.Until (Puts resolver request document)) :
      Stage resolver request target Free [⟨target, .kind⟩, ⟨document, .kind⟩] program
  /-- It has put its document. -/
  | answering {document subject : String} {graph : Graph} (free : Free document)
      (states : resolver.States request subject graph) :
      Stage resolver request target Free
        [⟨target, .kind⟩, ⟨document, .kind⟩, ⟨document, .write (.put graph)⟩]
        (.newGraph graph fun ref => .done (.ok (.node (.created document subject ref))))
  /-- It was answered with the entity in its document. -/
  | answered {document subject : String} {graph : Graph} {ref : GraphRef} (free : Free document)
      (states : resolver.States request subject graph) :
      Stage resolver request target Free
        [⟨target, .kind⟩, ⟨document, .kind⟩, ⟨document, .write (.put graph)⟩]
        (.done (.ok (.node (.created document subject ref))))

namespace Stage

/-- A creation stays where it is while what is known of the URL of its document stays true. -/
theorem mono (stage : Stage resolver request target Free calls program)
    (still : ∀ document, Free document → Free' document) :
    Stage resolver request target Free' calls program := by
  cases stage with
  | asking left => exact .asking left
  | checking left => exact .checking left
  | refused => exact .refused
  | putting free left => exact .putting (still _ free) left
  | answering free states => exact .answering (still _ free) states
  | answered free states => exact .answered (still _ free) states

/-- A creation in a container asks for kinds and puts documents. -/
theorem asksOrPuts (stage : Stage resolver request target Free calls program) :
    ∀ call ∈ calls, call.AsksOrPuts := by
  cases stage <;> simp [Call.AsksOrPuts]

/-- A creation that has failed has written nothing. -/
theorem isWrite_of_error {cause : ResolveError}
    (stage : Stage resolver request target Free calls (.done (.error cause))) :
    ∀ call ∈ calls, call.isWrite = false := by
  cases stage <;> simp [Call.isWrite]

/-- A creation that was answered has put the document of the entity that it was answered with, where
there was found to be nothing. -/
theorem of_ok {result : Resolved}
    (stage : Stage resolver request target Free calls (.done (.ok result))) :
    ∃ document subject ref graph, result = .node (.created document subject ref) ∧ Free document ∧
      resolver.States request subject graph ∧
      calls = [⟨target, .kind⟩, ⟨document, .kind⟩, ⟨document, .write (.put graph)⟩] := by
  -- what has ended is not on the way to a call
  cases stage with
  | asking left =>
    cases left with
    | here holds => cases holds
  | checking left =>
    cases left with
    | here holds => cases holds
  | putting free left =>
    cases left with
    | here holds => cases holds
  | answered free states => exact ⟨_, _, _, _, rfl, free, states, rfl⟩

/-- One step of a creation, in a world where its target is a container. -/
theorem step (stage : Stage resolver request target Free calls program)
    (container : world.resources.isContainer target = true)
    (found : ∀ document, (program.step Store.client world).call? = some ⟨document, .kind⟩ →
      world.resources.document? document = none → Free document) :
    Stage resolver request target Free (calls ++ (program.step Store.client world).call?.toList)
      (program.step Store.client world).rest := by
  cases stage with
  | asking left =>
    rcases left.step Store.client world with asks | ⟨noCall, rest⟩
    · cases asks with
      | @kind next goesOn =>
        change Stage resolver request target Free [⟨target, .kind⟩]
          (next (world.resources.kindOf target))
        rw [Store.kindOf_of_isContainer container]
        exact .checking goesOn
    · rw [noCall]
      exact .asking rest
  | checking left =>
    rcases left.step Store.client world with checks | ⟨noCall, rest⟩
    · cases checks with
      | @kind document next taken free =>
        change Stage resolver request target Free [⟨target, .kind⟩, ⟨document, .kind⟩]
          (next (world.resources.kindOf document))
        cases answer : world.resources.kindOf document with
        | ok kind =>
          obtain ⟨cause, refused⟩ := taken kind
          rw [refused]
          exact .refused
        | error failure =>
          exact .putting (found document rfl (Store.absent_of_kindOf answer).2) (free failure)
    · rw [noCall]
      exact .checking rest
  | refused => exact .refused
  | @putting document _ free left =>
    rcases left.step Store.client world with puts | ⟨noCall, rest⟩
    · cases puts with
      | @write graph subject next states accepted =>
        change Stage resolver request target Free
          [⟨target, .kind⟩, ⟨document, .kind⟩, ⟨document, .write (.put graph)⟩] (next (.ok ()))
        rw [accepted]
        exact .answering free states
    · rw [noCall]
      exact .putting free rest
  | answering free states => exact .answered free states
  | answered free states => exact .answered free states

end Stage

end Stages

/-! ### Creations that take turns -/

/-- A step that asks for a kind or puts a document changes no container, and no document but the one that
it puts. -/
theorem Program.step_asksOrPuts {α : Type} {program : Program α} {world : World Store}
    (only : ∀ call ∈ (program.step Store.client world).call?.toList, call.AsksOrPuts) :
    (program.step Store.client world).world.resources.containers = world.resources.containers ∧
      ∀ url, (program.step Store.client world).world.resources.document? url =
        ((program.step Store.client world).call?.bind (·.putAt? url)).or
          (world.resources.document? url) := by
  cases program with
  | write place change next =>
    obtain asks | ⟨graph, puts⟩ := only ⟨place, .write change⟩ List.mem_cons_self
    · cases asks
    · obtain rfl : change = .put graph := Operation.write.inj puts
      refine ⟨rfl, fun url => (Store.document?_put ..).trans ?_⟩
      change _ = Option.or (if place = url then some graph else none) _
      split <;> rfl
  | _ => exact ⟨rfl, fun _ => rfl⟩

section Turns

variable {ι : Type} {resolver : Resolver} {requests : ι → Request} {targets : ι → String}
  {start : Store} {trace : List (ι × Call)} {who : ι} {url document : String} {graph : Graph}

/-- Who put what at a URL, in order. -/
def putsAt (url : String) (trace : List (ι × Call)) : List (ι × Graph) :=
  trace.filterMap fun (who, call) => (call.putAt? url).map (who, ·)

theorem mem_putsAt :
    (who, graph) ∈ putsAt url trace ↔ (who, ⟨url, .write (.put graph)⟩) ∈ trace := by
  unfold putsAt
  rw [List.mem_filterMap]
  constructor
  · rintro ⟨⟨one, call⟩, mem, found⟩
    obtain ⟨_, put, same⟩ := Option.map_eq_some_iff.1 found
    obtain ⟨rfl, rfl⟩ := Prod.mk.inj same
    rwa [← Call.putAt?_eq_some_iff.1 put]
  · intro mem
    exact ⟨_, mem, by simp [Call.putAt?]⟩

theorem putsAt_append {more : List (ι × Call)} :
    putsAt url (trace ++ more) = putsAt url trace ++ putsAt url more :=
  List.filterMap_append

/-- There was nothing at a URL in the beginning, and nothing had been put there when it was asked
for. -/
def FoundFree (start : Store) (trace : List (ι × Call)) (who : ι) (url : String) : Prop :=
  start.document? url = none ∧
    ∃ asked, asked <+: trace ∧ (who, ⟨url, .kind⟩) ∈ asked ∧ putsAt url asked = []

variable {state : Interleaving ι (Except ResolveError Resolved) Store}

/-- A request was answered with a new entity in a document, and the graph is what it states of the
entity. -/
def Answered (resolver : Resolver) (requests : ι → Request)
    (state : Interleaving ι (Except ResolveError Resolved) Store) (who : ι) (document : String)
    (graph : Graph) : Prop :=
  ∃ subject ref, state.programs who = .done (.ok (.node (.created document subject ref))) ∧
    resolver.States (requests who) subject graph

theorem Answered.eq {graph' : Graph} (answered : Answered resolver requests state who document graph)
    (answered' : Answered resolver requests state who document graph') : graph = graph' := by
  obtain ⟨subject, ref, isDone, states⟩ := answered
  obtain ⟨subject', ref', isDone', states'⟩ := answered'
  obtain ⟨rfl, -⟩ : subject = subject' ∧ ref = ref' := by
    simpa [isDone, Context.created] using isDone'
  exact states.eq states'

variable [DecidableEq ι]

/-- What was once found to be free when it was asked for stays so. -/
theorem FoundFree.step {client : Client Store} {turn : ι} (free : FoundFree start state.trace who url) :
    FoundFree start (state.step client turn).trace who url := by
  obtain ⟨nothing, asked, begins, mem, noPut⟩ := free
  exact ⟨nothing, asked, begins.trans (List.prefix_append ..), mem, noPut⟩

/-- What was put last, after a step. -/
theorem getLast?_putsAt_step {client : Client Store} {turn : ι} :
    (putsAt url (state.step client turn).trace).getLast?.map Prod.snd =
      ((state.next client turn).call?.bind (·.putAt? url)).or
        ((putsAt url state.trace).getLast?.map Prod.snd) := by
  unfold Interleaving.step
  rw [putsAt_append]
  cases (state.next client turn).call? with
  | none => simp [putsAt]
  | some call => cases put : call.putAt? url <;> simp [putsAt, put]

/-- What is true of creations in containers at every moment. -/
structure Underway (resolver : Resolver) (requests : ι → Request) (targets : ι → String)
    (start : Store) (state : Interleaving ι (Except ResolveError Resolved) Store) : Prop where
  /-- Each of them is at a stage. -/
  stages : ∀ who, Stage resolver (requests who) (targets who) (FoundFree start state.trace who)
    (state.callsOf who) (state.programs who)
  /-- The containers are those of the beginning. -/
  containers : state.world.resources.containers = start.containers
  /-- A document is what was put last, or as it was in the beginning. -/
  documents : ∀ url, state.world.resources.document? url =
    ((putsAt url state.trace).getLast?.map Prod.snd).or (start.document? url)

namespace Underway

theorem of_start {world : World Store}
    (creates : ∀ who, (requests who).CreatesIn resolver (targets who)) :
    Underway resolver requests targets world.resources
      (.start (fun who => (resolver.resolve (requests who)).run) world) where
  stages who := .asking (create_until_asks (creates who))
  containers := rfl
  documents _ := rfl

/-- Where there is nothing, nothing has been put yet. -/
theorem foundFree (underway : Underway resolver requests targets start state) {turn : ι}
    (asks : (state.next Store.client turn).call? = some ⟨url, .kind⟩)
    (nothing : state.world.resources.document? url = none) :
    FoundFree start (state.step Store.client turn).trace turn url := by
  rw [underway.documents, Option.or_eq_none_iff, Option.map_eq_none_iff,
    List.getLast?_eq_none_iff] at nothing
  obtain ⟨noPut, absent⟩ := nothing
  have trace : (state.step Store.client turn).trace = state.trace ++ [(turn, ⟨url, .kind⟩)] := by
    rw [Interleaving.step, asks]
    rfl
  refine ⟨absent, _, List.prefix_rfl, ?_, ?_⟩
  · rw [trace]
    exact List.mem_append_right _ List.mem_cons_self
  · rw [trace, putsAt_append, noPut]
    rfl

/-- A step of one of the creations keeps what is true of all of them. -/
theorem step (underway : Underway resolver requests targets start state)
    (containers : ∀ who, start.isContainer (targets who) = true) (turn : ι) :
    Underway resolver requests targets start (state.step Store.client turn) := by
  have container : state.world.resources.isContainer (targets turn) = true := by
    rw [Store.isContainer, underway.containers]
    exact containers turn
  have stage := ((underway.stages turn).mono fun _ free => free.step).step container
    fun _ asks nothing => underway.foundFree asks nothing
  obtain ⟨noContainer, documents⟩ := Program.step_asksOrPuts fun call made =>
    stage.asksOrPuts call (List.mem_append_right _ made)
  constructor
  case stages =>
    intro who
    by_cases same : who = turn
    · subst same
      rw [Interleaving.callsOf_step_self, Interleaving.programs_step rfl]
      exact stage
    · rw [Interleaving.callsOf_step_of_ne same, Interleaving.programs_step_of_ne same]
      exact (underway.stages who).mono fun _ free => free.step
  case containers => exact noContainer.trans underway.containers
  case documents =>
    intro url
    rw [getLast?_putsAt_step, Option.or_assoc, ← underway.documents]
    exact documents url

end Underway

namespace Underway

/-- A request that was answered has put what it states, where there was nothing when it asked. -/
theorem of_answered (underway : Underway resolver requests targets start state)
    (answered : Answered resolver requests state who document graph) :
    FoundFree start state.trace who document ∧
      state.callsOf who =
        [⟨targets who, .kind⟩, ⟨document, .kind⟩, ⟨document, .write (.put graph)⟩] := by
  obtain ⟨subject, ref, ended, states⟩ := answered
  have stage := underway.stages who
  rw [ended] at stage
  obtain ⟨document', subject', ref', graph', same, free, states', calls⟩ := stage.of_ok
  obtain ⟨rfl, rfl, rfl⟩ : subject = subject' ∧ ref = ref' ∧ document = document' := by
    simpa [Context.created] using same
  obtain rfl := states.eq states'
  exact ⟨free, calls⟩

theorem mem_putsAt_of_answered (underway : Underway resolver requests targets start state)
    (answered : Answered resolver requests state who document graph) :
    (who, graph) ∈ putsAt document state.trace := by
  obtain ⟨-, calls⟩ := underway.of_answered answered
  rw [mem_putsAt, ← Interleaving.mem_callsOf, calls]
  simp

/-- Two requests are answered with the same document only if both had asked for it before either of them
put it. -/
theorem asked_before_put (underway : Underway resolver requests targets start state) {other : ι}
    {graph' : Graph} (answered : Answered resolver requests state who document graph)
    (answered' : Answered resolver requests state other document graph') :
    ∃ before after, state.trace = before ++ after ∧
      (who, ⟨document, .kind⟩) ∈ before ∧ (other, ⟨document, .kind⟩) ∈ before ∧
      (who, ⟨document, .write (.put graph)⟩) ∈ after ∧
      (other, ⟨document, .write (.put graph')⟩) ∈ after := by
  obtain ⟨⟨-, asked, begins, mem, noPut⟩, -⟩ := underway.of_answered answered
  obtain ⟨⟨-, asked', begins', mem', noPut'⟩, -⟩ := underway.of_answered answered'
  have put := underway.mem_putsAt_of_answered answered
  have put' := underway.mem_putsAt_of_answered answered'
  -- the longer one of the two beginnings has both questions
  obtain ⟨before, ⟨after, split⟩, mem, mem', noPut⟩ : ∃ before, before <+: state.trace ∧
      (who, ⟨document, .kind⟩) ∈ before ∧ (other, ⟨document, .kind⟩) ∈ before ∧
      putsAt document before = [] := by
    rcases List.prefix_or_prefix_of_prefix begins begins' with shorter | shorter
    · exact ⟨asked', begins', shorter.subset mem, mem', noPut'⟩
    · exact ⟨asked, begins, mem, shorter.subset mem', noPut⟩
  rw [← split, putsAt_append, noPut, List.nil_append, mem_putsAt] at put put'
  exact ⟨before, after, split.symm, mem, mem', put, put'⟩

/-- Once all requests have ended, what was put is what those that were answered have put. -/
theorem answered_of_mem_putsAt (underway : Underway resolver requests targets start state)
    (ended : ∀ who, ∃ outcome, state.programs who = .done outcome)
    (put : (who, graph) ∈ putsAt document state.trace) :
    Answered resolver requests state who document graph := by
  rw [mem_putsAt, ← Interleaving.mem_callsOf] at put
  have stage := underway.stages who
  obtain ⟨cause | result, isDone⟩ := ended who
  · rw [isDone] at stage
    exact absurd (stage.isWrite_of_error _ put) (by simp [Call.isWrite])
  · rw [isDone] at stage
    obtain ⟨document', subject, ref, graph', rfl, free, states, calls⟩ := stage.of_ok
    obtain ⟨rfl, rfl⟩ : document = document' ∧ graph = graph' := by simpa [calls] using put
    exact ⟨subject, ref, isDone, states⟩

/-- Once all requests have ended, the document of one that was answered is what one of those that were
answered with it has put last. -/
theorem document_of_answered (underway : Underway resolver requests targets start state)
    (ended : ∀ who, ∃ outcome, state.programs who = .done outcome)
    (answered : Answered resolver requests state who document graph) :
    ∃ last graph', Answered resolver requests state last document graph' ∧
      (putsAt document state.trace).getLast? = some (last, graph') ∧
      state.world.resources.document? document = some graph' := by
  have put := underway.mem_putsAt_of_answered answered
  rcases found : (putsAt document state.trace).getLast? with _ | ⟨last, graph'⟩
  · rw [List.getLast?_eq_none_iff] at found
    rw [found] at put
    cases put
  · refine ⟨last, graph', ?_, rfl, ?_⟩
    · exact underway.answered_of_mem_putsAt ended (List.mem_of_getLast? found)
    · rw [underway.documents, found]
      rfl

end Underway

/-- Creations in containers take turns in any order. One that has failed has written nothing; one that was
answered has asked for its target, asked for its document, where there was nothing in the beginning, and
put the document. Two are answered with the same document only if both had asked for it before either of
them put it. Once all of them have ended, the document is what was put there last: it is what the request
states that was answered with it, if there is only one. -/
theorem creations_in_turns {world : World Store}
    (creates : ∀ who, (requests who).CreatesIn resolver (targets who))
    (containers : ∀ who, world.resources.isContainer (targets who) = true) {schedule : List ι}
    (ran : (Interleaving.start (fun who => (resolver.resolve (requests who)).run) world).run
      Store.client schedule = state) :
    (∀ who cause, state.programs who = .done (.error cause) →
      ∀ call ∈ state.callsOf who, call.isWrite = false) ∧
    (∀ who result, state.programs who = .done (.ok result) → ∃ document subject ref graph,
      result = .node (.created document subject ref) ∧
      Answered resolver requests state who document graph ∧
      world.resources.document? document = none ∧
      state.callsOf who =
        [⟨targets who, .kind⟩, ⟨document, .kind⟩, ⟨document, .write (.put graph)⟩]) ∧
    (∀ one other document graph graph', Answered resolver requests state one document graph →
      Answered resolver requests state other document graph' →
      ∃ before after, state.trace = before ++ after ∧
        (one, ⟨document, .kind⟩) ∈ before ∧ (other, ⟨document, .kind⟩) ∈ before ∧
        (one, ⟨document, .write (.put graph)⟩) ∈ after ∧
        (other, ⟨document, .write (.put graph')⟩) ∈ after) ∧
    ((∀ who, ∃ outcome, state.programs who = .done outcome) →
      ∀ who document graph, Answered resolver requests state who document graph →
        (∃ last graph', Answered resolver requests state last document graph' ∧
          (putsAt document state.trace).getLast? = some (last, graph') ∧
          state.world.resources.document? document = some graph') ∧
        ((∀ other graph', Answered resolver requests state other document graph' → other = who) →
          state.world.resources.document? document = some graph)) := by
  have underway : Underway resolver requests targets world.resources state := by
    rw [← ran]
    refine Interleaving.run_invariant (.of_start creates) (fun state turn underway => ?_) schedule
    exact underway.step containers turn
  refine ⟨?_, ?_, ?_, ?_⟩
  · intro who cause failed
    have stage := underway.stages who
    rw [failed] at stage
    exact stage.isWrite_of_error
  · intro who result isDone
    have stage := underway.stages who
    rw [isDone] at stage
    obtain ⟨document, subject, ref, graph, rfl, free, states, calls⟩ := stage.of_ok
    exact ⟨document, subject, ref, graph, rfl, ⟨subject, ref, isDone, states⟩, free.1, calls⟩
  · intro one other document graph graph' answered answered'
    exact underway.asked_before_put answered answered'
  · intro ended who document graph answered
    obtain ⟨last, graph', answered', isLast, holds⟩ := underway.document_of_answered ended answered
    refine ⟨⟨last, graph', answered', isLast, holds⟩, fun only => ?_⟩
    obtain rfl := only last graph' answered'
    rw [holds, answered.eq answered']

end Turns

/-! ### Two contacts of one name -/

open AddressBook

/-- The creations of two contacts who are named after the same slug, and differ in their addresses. -/
def namesakes (second : Bool) : Request :=
  creation [(slugField, .string "joe"),
    ("email", .array [.string (if second then "b@example.org" else "a@example.org")])]

/-- The creations take turns, in a container with nothing in it. -/
def namesakesInTurns (schedule : List Bool) : Interleaving Bool (Except ResolveError Resolved) Store :=
  (Interleaving.start (fun second => (resolver.resolve (namesakes second)).run) vacant).run
    Store.client schedule

/-- The document of both contacts. -/
def namesake : String := "http://example.org/contacts/joe"

/-- A contact of the name with an address. -/
def namesakeGraph (address : String) : Graph :=
  let joe := Node.iri "http://example.org/contacts/joe#joe"
  Graph.ofList [Graph.typing joe person,
    ⟨joe, "http://schema.org/email", .literal (.simple address)⟩]

/-- The second creation asks for the document after the first one has put it, and fails. -/
theorem creations_in_turns_namesakes :
    let state := namesakesInTurns [false, true, false, false, true, false]
    state.programs true = .done (.error (.alreadyExists namesake)) ∧
      (∀ call ∈ state.callsOf true, call.isWrite = false) ∧
      Answered resolver namesakes state false namesake (namesakeGraph "a@example.org") ∧
      state.world.resources.document? namesake = some (namesakeGraph "a@example.org") := by
  intro state
  have creates (second : Bool) :
      (namesakes second).CreatesIn resolver AddressBook.container := by
    cases second <;> exact ⟨⟨rfl, rfl, by decide, rfl⟩, person, rfl, rfl⟩
  have container (second : Bool) : vacant.resources.isContainer AddressBook.container = true := rfl
  have ran : namesakesInTurns [false, true, false, false, true, false] = state := rfl
  obtain ⟨failed, -, -, documents⟩ := creations_in_turns creates container ran
  have answered : Answered resolver namesakes state false namesake (namesakeGraph "a@example.org") :=
    ⟨"http://example.org/contacts/joe#joe", 0, rfl, person, _, _, _, rfl, rfl, rfl, rfl⟩
  have refused : state.programs true = .done (.error (.alreadyExists namesake)) := rfl
  refine ⟨refused, failed true _ refused, answered, ?_⟩
  refine (documents (fun second => ?_) false namesake _ answered).2 fun other graph answered => ?_
  · cases second
    · exact ⟨_, rfl⟩
    · exact ⟨_, rfl⟩
  · cases other with
    | false => rfl
    | true =>
      obtain ⟨subject, ref, isDone, -⟩ := answered
      rw [refused] at isDone
      cases isDone

/-- Both creations ask for the document before either of them puts it: both are answered, and what the
first one has put is lost. -/
theorem creations_overwrite :
    let state := namesakesInTurns [false, false, true, true, false, false, true, true]
    Answered resolver namesakes state false namesake (namesakeGraph "a@example.org") ∧
      Answered resolver namesakes state true namesake (namesakeGraph "b@example.org") ∧
      state.world.resources.document? namesake = some (namesakeGraph "b@example.org") ∧
      namesakeGraph "a@example.org" ≠ namesakeGraph "b@example.org" := by
  refine ⟨⟨"http://example.org/contacts/joe#joe", 0, rfl, ?_⟩,
    ⟨"http://example.org/contacts/joe#joe", 1, rfl, ?_⟩, rfl, by decide⟩
  · exact ⟨person, _, _, _, rfl, rfl, rfl, rfl⟩
  · exact ⟨person, _, _, _, rfl, rfl, rfl, rfl⟩

end LinkedShapes.Resolution
