import LinkedShapes.Proofs.Calls
import LinkedShapes.Proofs.Creation

/-!
# Creating overwrites nothing

A creation looks and checks first and sends its one change last. In a store this change is never
refused: a document that is put is put, and a patch that deletes nothing is made. So a creation that
fails has asked questions only, and one that is answered has made its change, which in a container
is a new document at a URL where there was nothing.

## Main statements

* `FailsAsking`: an attempt fails only where it has asked nothing but questions.
* `create_failsAsking`: this is so of a creation, in a container and in a document.
* `create_writes_once`: what a creation in a container leaves behind, answered or not.
-/

namespace LinkedShapes.Ldp

open Rdf

namespace Store

/-- Nothing but questions was asked between the stores. -/
structure Asked (before after : Store) : Prop where
  /-- The documents are as they were. -/
  documents : after.documents = before.documents
  /-- The containers are as they were. -/
  containers : after.containers = before.containers
  /-- No change was sent. -/
  writes : after.writes = before.writes

variable {before between after : Store}

theorem Asked.refl (store : Store) : store.Asked store := ⟨rfl, rfl, rfl⟩

theorem Asked.trans (first : before.Asked between) (second : between.Asked after) :
    before.Asked after :=
  ⟨second.documents.trans first.documents, second.containers.trans first.containers,
    second.writes.trans first.writes⟩

theorem asked_note {store : Store} {url : String} {operation : Operation}
    (question : Call.isWrite ⟨url, operation⟩ = false) : store.Asked (store.note url operation) :=
  ⟨rfl, rfl, by simp [writes, note, question]⟩

/-- A question to a store is no more than that. -/
theorem client_keeps_asked (before : Store) :
    client.Keeps (fun call => call.isWrite = false) before.Asked where
  kind _ _ question asked := asked.trans (asked_note question)
  download _ _ question asked := asked.trans (asked_note question)
  write _ _ _ question _ := absurd question.symm Bool.false_ne_true

end Store

end LinkedShapes.Ldp

namespace LinkedShapes.Resolution

open Rdf Ldp Schema

variable {α β : Type}

namespace Attempt

/-- The attempt ends with a value, whatever the store holds. -/
def Completes (attempt : Attempt α) : Prop :=
  ∀ world : World Store, ∃ value after, attempt.Returns Store.client world value after

/-- Where the attempt fails, the store was asked nothing but questions. -/
def FailsAsking (attempt : Attempt α) : Prop :=
  ∀ (world : World Store) cause after,
    attempt.runIn Store.client world = (.error cause, after) →
    world.resources.Asked after.resources

theorem completes_pure (value : α) : (pure value : Attempt α).Completes :=
  fun world => ⟨value, world, returns_pure.2 ⟨rfl, rfl⟩⟩

theorem completes_newGraph (graph : Graph) : (newGraph graph).Completes :=
  fun _ => ⟨_, _, returns_newGraph.2 ⟨rfl, rfl⟩⟩

/-- A document that is put is accepted. -/
theorem completes_put (url : String) (graph : Graph) : (write url (.put graph)).Completes :=
  fun _ => ⟨(), _, returns_write.2 ⟨rfl, rfl⟩⟩

/-- A patch that deletes nothing is accepted. -/
theorem completes_insert (url : String) (inserts : List Triple) :
    (write url (.patch { inserts })).Completes :=
  fun _ => ⟨(), _, returns_write.2 ⟨Store.patch_eq_ok_iff.2 nofun, rfl⟩⟩

theorem Completes.bind {attempt : Attempt α} {f : α → Attempt β} (first : attempt.Completes)
    (rest : ∀ value, (f value).Completes) : (attempt >>= f).Completes := by
  intro world
  obtain ⟨value, between, ran⟩ := first world
  obtain ⟨result, after, ended⟩ := rest value between
  exact ⟨result, after, (returns_bind_of_returns ran).2 ended⟩

theorem Completes.failsAsking {attempt : Attempt α} (completes : attempt.Completes) :
    attempt.FailsAsking := by
  intro world cause after failed
  obtain ⟨value, last, ran⟩ := completes world
  rw [Returns, failed] at ran
  cases ran

/-- An attempt that changes nothing asks nothing but questions, whether it fails or not. -/
theorem Takes.asked {attempt : Attempt α} (observes : attempt.Observes true)
    (world : World Store) :
    world.resources.Asked (attempt.runIn Store.client world).2.resources :=
  (observes.mono fun _ observes => observes.makes fun _ _ => ⟨rfl, rfl⟩).runIn_keeps_resources
    (Store.client_keeps_asked world.resources) (Store.Asked.refl world.resources)

/-- An attempt that changes nothing, then another that fails only where it has asked questions. -/
theorem Takes.bind_failsAsking {attempt : Attempt α} {f : α → Attempt β}
    (first : attempt.Observes true) (rest : ∀ value, (f value).FailsAsking) :
    (attempt >>= f).FailsAsking := by
  intro world cause after failed
  have asked := first.asked world
  rw [runIn_bind] at failed
  rcases ran : attempt.runIn Store.client world with ⟨fault | value, between⟩
  · rw [ran] at failed asked
    obtain ⟨-, rfl⟩ := Prod.mk.inj failed
    exact asked
  · rw [ran] at failed asked
    exact asked.trans (rest value between cause after failed)

end Attempt

open Attempt

/-- The write of a creation is accepted. -/
theorem completes_creationWrite (url : String) (inserts : List Triple) (kind : ResourceKind) :
    (write url (creationWrite inserts kind)).Completes := by
  cases kind with
  | container => exact completes_put url _
  | document => exact completes_insert url inserts

theorem writeNew_failsAsking (cls : String) (type : InputType) (values : List (String × Json))
    (kind : ResourceKind) (document subject : String) :
    (writeNew cls type values kind document subject).FailsAsking := by
  refine (takes_lift _).bind_failsAsking fun triples => ?_
  refine ((completes_creationWrite document _ kind).bind fun _ => ?_).failsAsking
  exact (completes_newGraph _).bind fun _ => completes_pure _

theorem create_failsAsking (resolver : Resolver) (request : Request) :
    (create resolver request).FailsAsking := by
  rw [create_eq]
  refine (takes_lift _).bind_failsAsking fun cls => ?_
  refine (takes_lift _).bind_failsAsking fun target => ?_
  refine (takes_lift _).bind_failsAsking fun (type, values) => ?_
  refine (observes_kind target).bind_failsAsking fun kind => ?_
  cases kind with
  | container =>
    refine (observes_mintDocument target values).bind_failsAsking fun (document, subject) => ?_
    refine (observes_ensureAbsent document).bind_failsAsking fun _ => ?_
    exact writeNew_failsAsking cls type values .container document subject
  | document =>
    refine (observes_mintSubject target values).bind_failsAsking fun subject => ?_
    exact writeNew_failsAsking cls type values .document target subject

/-- A creation in a container makes one change, if it is answered: it puts a document at a URL where
there was neither a document nor a container, and all the rest of the store is as it was. If it fails,
no change was sent and the store is as it was. -/
theorem create_writes_once {world : World Store} {resolver : Resolver} {request : Request}
    {cls target : String} (mutates : request.Mutates .create)
    (ofClass : resolver.classOf request.field.type.name = .ok cls)
    (kept : resolver.target cls = .ok target)
    (container : world.resources.isContainer target = true) :
    match (resolver.resolve request).runIn Store.client world with
    | (.ok _, after) => ∃ document graph, world.Created after document graph ∧
        ∀ url, after.resources.document? url =
          if document = url then some graph else world.resources.document? url
    | (.error _, after) => world.resources.Asked after.resources := by
  rw [resolve_of_mutates mutates]
  rcases ran : (performedBy resolver request (MutationKind.ofName request.field.name).2 .create).runIn
      Store.client world with ⟨cause | result, after⟩
  · exact create_failsAsking resolver request world cause after ran
  · obtain ⟨_, _, document, subject, stated, _, _, -, -, -, created, -⟩ :=
      returns_create ofClass kept container ran
    refine ⟨document, _, created, fun url => ?_⟩
    rw [Store.document?, created.documents]
    exact Store.find?_putDocument _ _ _ _

open AddressBook

/-- A contact is made once: the second time its document is there, and nothing is changed. -/
theorem create_writes_once_joining :
    (∃ document graph,
      vacant.Created (resolver.settle Store.client vacant joining) document graph) ∧
      (resolver.settle Store.client vacant joining).resources.Asked
        (resolver.settle Store.client (resolver.settle Store.client vacant joining)
          joining).resources := by
  have mutates : joining.Mutates .create := ⟨rfl, rfl, by decide, rfl⟩
  have ofClass : resolver.classOf joining.field.type.name = .ok person := rfl
  have kept : resolver.target person = .ok AddressBook.container := rfl
  have ran : (resolver.resolve joining).Returns Store.client vacant
      (.node (.created "http://example.org/contacts/joe" "http://example.org/contacts/joe#joe" 0))
      (resolver.settle Store.client vacant joining) := rfl
  have refused : (resolver.resolve joining).runIn Store.client
      (resolver.settle Store.client vacant joining) =
      (.error (.alreadyExists "http://example.org/contacts/joe"),
        resolver.settle Store.client (resolver.settle Store.client vacant joining) joining) := rfl
  constructor
  · have once := create_writes_once mutates ofClass kept
      (show vacant.resources.isContainer AddressBook.container = true from rfl)
    rw [show _ = _ from ran] at once
    obtain ⟨document, graph, created, -⟩ := once
    exact ⟨document, graph, created⟩
  · have once := create_writes_once mutates ofClass kept
      (show (resolver.settle Store.client vacant joining).resources.isContainer
        AddressBook.container = true from rfl)
    rw [refused] at once
    exact once

end LinkedShapes.Resolution
