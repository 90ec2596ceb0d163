import LinkedShapes.Proofs.Calls
import LinkedShapes.Proofs.Causes
import LinkedShapes.Proofs.Reading

/-!
# What was called before a request is rejected

A request can be rejected for what it says itself: an identifier, a name or a value. `RejectsAfter` says
which calls were made before. A query, the look-up of an entity to change, a removal, an update and a
change of a relation check all of the request first, so that there was none. A creation first asks for the
kind of the resource that holds the class, as names are made differently in a container, and looks at the
names only then; and it looks at the values after it asked whether the new document is there.

## Main statements

* `Takes.bind_rejectsAfter`, `bind_rejectsAfter_of_call`: the calls of one attempt after another.
* `create_rejectsAfter`: the calls that were made before a creation is rejected.
* `rejected_calls_iff`: which requests are rejected without a call.
-/

namespace LinkedShapes.Resolution

open Rdf Ldp Schema

variable {α β : Type}

/-! ### Rejections -/

/-- The request is rejected for what it says itself: the error is one of validation, and not that a
document is there already. -/
def ResolveError.Rejects (cause : ResolveError) : Prop :=
  cause.isValidation = true ∧ ∀ url, cause ≠ .alreadyExists url

theorem ResolveError.not_rejects_transport (failure : Failure) : ¬ Rejects (.transport failure) :=
  fun rejects => absurd rejects.1 Bool.false_ne_true

theorem ResolveError.not_rejects_alreadyExists (url : String) : ¬ Rejects (.alreadyExists url) :=
  fun rejects => rejects.2 url rfl

namespace Attempt

/-- Where the attempt ends with a rejection, `made` holds of the calls that it made. -/
def RejectsAfter (made : List Call → Prop) (attempt : Attempt α) : Prop :=
  ∀ (σ : Type) (client : Client σ) (world after : World σ) (cause : ResolveError),
    attempt.runIn client world = (.error cause, after) → cause.Rejects →
      made (attempt.calls client world)

section Rules

variable {made : List Call → Prop} {attempt : Attempt α} {f : α → Attempt β} {call : Call}

/-- An attempt whose failures are no rejections. -/
theorem rejectsAfter_of_failsOnly (fails : attempt.FailsOnly (¬ ·.Rejects)) :
    attempt.RejectsAfter made := by
  intro σ client world after cause failed rejects
  exact absurd rejects (fails.runIn client world cause (congrArg Prod.fst failed))

/-- What was looked up or checked without a call, then another attempt. -/
theorem Takes.bind_rejectsAfter (first : attempt.Observes false) (none : made [])
    (rest : ∀ value, (f value).RejectsAfter made) : (attempt >>= f).RejectsAfter made := by
  intro σ client world after cause failed rejects
  rw [runIn_bind] at failed
  rw [calls_bind, first.calls_eq_nil, List.nil_append]
  rcases ran : attempt.runIn client world with ⟨_ | value, between⟩
  · exact none
  · rw [ran] at failed
    exact rest value σ client between after cause failed rejects

/-- A result that is known without a call: another attempt follows if it is not an error. -/
theorem lift_bind_rejectsAfter {value : Except ResolveError α}
    (failed : ∀ cause, value = .error cause → made [])
    (rest : ∀ a, value = .ok a → (f a).RejectsAfter made) :
    (liftM value >>= f).RejectsAfter made := by
  cases value with
  | error cause => exact fun _ _ _ _ _ _ _ => failed cause rfl
  | ok a => exact rest a rfl

/-- One call that is not answered with a rejection, then another attempt. -/
theorem bind_rejectsAfter_of_call
    (one : ∀ (σ : Type) (client : Client σ) (world : World σ), attempt.calls client world = [call])
    (fails : attempt.FailsOnly (¬ ·.Rejects))
    (rest : ∀ value, (f value).RejectsAfter fun calls => made (call :: calls)) :
    (attempt >>= f).RejectsAfter made := by
  intro σ client world after cause failed rejects
  rw [runIn_bind] at failed
  rw [calls_bind, one]
  rcases ran : attempt.runIn client world with ⟨found | value, between⟩
  · rw [ran] at failed
    obtain rfl := Except.error.inj (congrArg Prod.fst failed)
    exact absurd rejects (fails.runIn client world found (congrArg Prod.fst ran))
  · rw [ran] at failed
    exact rest value σ client between after cause failed rejects

end Rules

section Questions

variable {σ : Type} {client : Client σ} {world : World σ} {url : String}

/-- One question, then nothing that makes a call. -/
theorem calls_askKind_bind {f : Except Failure ResourceKind → Attempt β}
    (rest : ∀ answer, (f answer).Observes false) :
    (askKind url >>= f).calls client world = [⟨url, .kind⟩] := by
  rw [calls_bind]
  exact congrArg (List.cons _) ((rest _).calls_eq_nil _)

theorem calls_kind : (Attempt.kind url).calls client world = [⟨url, .kind⟩] :=
  calls_askKind_bind takes_answered

theorem calls_ensureAbsent : (ensureAbsent url).calls client world = [⟨url, .kind⟩] := by
  refine calls_askKind_bind fun answer => ?_
  rcases answer with failure | kind
  · dsimp only
    split
    · exact takes_pure ()
    · exact takes_throw _
  · exact takes_throw _

end Questions

end Attempt

open Attempt ResolveError

/-! ### Requests that are checked first -/

section Checked

variable {resolver : Resolver} {request : Request}

theorem entryPoint_rejectsAfter (resolver : Resolver) (request : Request) :
    (entryPoint resolver request).RejectsAfter (· = []) := by
  rw [entryPoint_eq]
  refine (takes_lift _).bind_rejectsAfter rfl fun cls => ?_
  refine (takes_lift _).bind_rejectsAfter rfl fun target => ?_
  refine (takes_lift _).bind_rejectsAfter rfl fun node => ?_
  exact rejectsAfter_of_failsOnly (lookUp_failsOnly not_rejects_transport request cls target node)

theorem mutate_rejectsAfter (resolver : Resolver) (request : Request) :
    (mutate resolver request).RejectsAfter (· = []) := by
  refine (takes_lift _).bind_rejectsAfter rfl fun cls => ?_
  refine (takes_lift _).bind_rejectsAfter rfl fun target => ?_
  refine (takes_lift _).bind_rejectsAfter rfl fun iri => ?_
  refine rejectsAfter_of_failsOnly ?_
  exact (lookUpInstance_failsOnly not_rejects_transport cls target _).bind fun _ => failsOnly_pure _

theorem delete_rejectsAfter (request : Request) : (delete request).RejectsAfter (· = []) := by
  rw [delete_eq]
  refine (takes_lift _).bind_rejectsAfter rfl fun context => ?_
  refine (takes_lift _).bind_rejectsAfter rfl fun subject => ?_
  refine (observes_readGraph _).bind_rejectsAfter rfl fun graph => ?_
  refine rejectsAfter_of_failsOnly ?_
  refine (sendRemoval_failsOnly not_rejects_transport context _).bind fun _ => ?_
  exact detach_failsOnly context subject graph

theorem applyPatch_rejectsAfter (context : Context) (patch : Patch) (result : Resolved) :
    (applyPatch context patch >>= fun _ => pure result).RejectsAfter (· = []) :=
  rejectsAfter_of_failsOnly <|
    (applyPatch_failsOnly not_rejects_transport context patch).bind fun _ => failsOnly_pure result

theorem update_rejectsAfter (resolver : Resolver) (request : Request) :
    (update resolver request).RejectsAfter (· = []) := by
  refine (takes_lift _).bind_rejectsAfter rfl fun context => ?_
  refine (takes_lift _).bind_rejectsAfter rfl fun subject => ?_
  refine (takes_ofSchema _).bind_rejectsAfter rfl fun entity => ?_
  refine (takes_lift _).bind_rejectsAfter rfl fun (type, values) => ?_
  refine (observes_readGraph _).bind_rejectsAfter rfl fun graph => ?_
  refine (takes_lift _).bind_rejectsAfter rfl fun patch => ?_
  exact applyPatch_rejectsAfter context patch _

theorem changeRelation_rejectsAfter (resolver : Resolver) (request : Request)
    (change : RelationChange) (suffix : String) :
    (changeRelation resolver request change suffix).RejectsAfter (· = []) := by
  refine (takes_lift _).bind_rejectsAfter rfl fun context => ?_
  refine (takes_lift _).bind_rejectsAfter rfl fun subject => ?_
  refine (takes_lift _).bind_rejectsAfter rfl fun (field, property) => ?_
  refine (observes_readGraph _).bind_rejectsAfter rfl fun graph => ?_
  refine (observes_relationPatch _ _ _ _ _ _ _ _).bind_rejectsAfter rfl fun patch => ?_
  exact applyPatch_rejectsAfter context patch _

end Checked

/-! ### Creations -/

section Creations

variable {resolver : Resolver} {request : Request} {target : String}

/-- The class of the entity to create is kept at a URL, and the input is an object of its type. -/
def Request.Prepares (request : Request) (resolver : Resolver) (target : String) : Prop :=
  ∃ cls type values, resolver.classOf request.field.type.name = .ok cls ∧
    resolver.target cls = .ok target ∧ inputObject resolver request = .ok (type, values)

/-- A creation that is prepared has one target. -/
theorem Request.Prepares.unique {other : String} (prepares : request.Prepares resolver target)
    (prepares' : request.Prepares resolver other) : target = other := by
  obtain ⟨cls, _, _, ofClass, kept, -⟩ := prepares
  obtain ⟨cls', _, _, ofClass', kept', -⟩ := prepares'
  obtain rfl := Except.ok.inj (ofClass.symm.trans ofClass')
  exact Except.ok.inj (kept.symm.trans kept')

/-- The calls before a rejection of a creation: none, or, if it is prepared, the question for the kind of
its target and perhaps that for the kind of a new document. -/
def CallsBeforeRejection (resolver : Resolver) (request : Request) (calls : List Call) : Prop :=
  calls = [] ∧ (∀ target, ¬ request.Prepares resolver target) ∨
    ∃ target, request.Prepares resolver target ∧
      (calls = [⟨target, .kind⟩] ∨ ∃ document, calls = [⟨target, .kind⟩, ⟨document, .kind⟩])

theorem ensureAbsent_failsOnly (url : String) : (ensureAbsent url).FailsOnly (¬ ·.Rejects) := by
  refine (failsOnly_askKind url).bind fun answer => ?_
  rcases answer with failure | kind
  · dsimp only
    split
    · exact failsOnly_pure ()
    · exact failsOnly_throw (not_rejects_transport failure)
  · exact failsOnly_throw (not_rejects_alreadyExists url)

/-- What a new entity states is checked, then it is written, and that is not rejected. -/
theorem writeNew_rejectsAfter {made : List Call → Prop} (none : made []) (cls : String)
    (type : InputType) (values : List (String × Json)) (kind : ResourceKind)
    (document subject : String) :
    (writeNew cls type values kind document subject).RejectsAfter made := by
  refine (takes_lift _).bind_rejectsAfter none fun stated => rejectsAfter_of_failsOnly ?_
  refine (failsOnly_write not_rejects_transport document _).bind fun _ => ?_
  exact (failsOnly_newGraph _).bind fun _ => failsOnly_pure _

theorem create_rejectsAfter (resolver : Resolver) (request : Request) :
    (create resolver request).RejectsAfter (CallsBeforeRejection resolver request) := by
  rw [create_eq]
  refine lift_bind_rejectsAfter (fun cause unknown => Or.inl ⟨rfl, ?_⟩) fun cls ofClass => ?_
  · rintro target ⟨cls, type, values, ofClass, -, -⟩
    cases unknown.symm.trans ofClass
  refine lift_bind_rejectsAfter (fun cause unknown => Or.inl ⟨rfl, ?_⟩) fun target kept => ?_
  · rintro other ⟨cls', type, values, ofClass', kept, -⟩
    obtain rfl := Except.ok.inj (ofClass.symm.trans ofClass')
    cases unknown.symm.trans kept
  refine lift_bind_rejectsAfter (fun cause unknown => Or.inl ⟨rfl, ?_⟩) fun (type, values) given => ?_
  · rintro other ⟨cls', type, values, -, -, given⟩
    cases unknown.symm.trans given
  have prepares : request.Prepares resolver target := ⟨cls, type, values, ofClass, kept, given⟩
  refine bind_rejectsAfter_of_call (fun _ _ _ => calls_kind)
    (failsOnly_kind not_rejects_transport target) fun kind => ?_
  have once : CallsBeforeRejection resolver request [⟨target, .kind⟩] :=
    Or.inr ⟨target, prepares, Or.inl rfl⟩
  cases kind with
  | document =>
    refine (observes_mintSubject target values).bind_rejectsAfter once fun subject => ?_
    exact writeNew_rejectsAfter once cls type values .document target subject
  | container =>
    refine (observes_mintDocument target values).bind_rejectsAfter once fun (document, subject) => ?_
    have twice : CallsBeforeRejection resolver request [⟨target, .kind⟩, ⟨document, .kind⟩] :=
      Or.inr ⟨target, prepares, Or.inr ⟨document, rfl⟩⟩
    refine bind_rejectsAfter_of_call (fun _ _ _ => calls_ensureAbsent)
      (ensureAbsent_failsOnly document) fun _ => ?_
    exact writeNew_rejectsAfter twice cls type values .container document subject

end Creations

/-! ### All requests -/

section Requests

variable {σ : Type} {client : Client σ} {world after : World σ} {resolver : Resolver}
  {request : Request} {cause : ResolveError}

/-- A field that asks for no creation is checked before the first call. -/
theorem resolve_rejectsAfter (other : ¬ request.Mutates .create) :
    (resolver.resolve request).RejectsAfter (· = []) := by
  by_cases reads : Reads request.field
  · intro σ client world after cause failed rejects
    exact (observes_of_reads resolver reads).calls_eq_nil world
  by_cases queries : request.Queries
  · rw [queries.resolve_eq reads]
    exact entryPoint_rejectsAfter resolver request
  have mutates := Request.mutates_of_not_queries queries
  rw [resolve_of_mutates mutates]
  generalize (MutationKind.ofName request.field.name).1 = kind at mutates
  cases kind with
  | create => exact absurd mutates other
  | mutate => exact mutate_rejectsAfter resolver request
  | delete => exact delete_rejectsAfter request
  | update => exact update_rejectsAfter resolver request
  | relation change => exact changeRelation_rejectsAfter resolver request change _
  | read => exact entryPoint_rejectsAfter resolver request

/-- A request is rejected without a call unless it asks for a creation whose class, target and input are
found. Such a creation is rejected after the question for the kind of the target, and perhaps after that
for the kind of the new document. -/
theorem rejected_calls_iff
    (failed : (resolver.resolve request).runIn client world = (.error cause, after))
    (validation : cause.isValidation = true) (absent : ∀ url, cause ≠ .alreadyExists url) :
    ((resolver.resolve request).calls client world = [] ↔
      ∀ target, request.Mutates .create → ¬ request.Prepares resolver target) ∧
    ∀ target, request.Mutates .create → request.Prepares resolver target →
      (resolver.resolve request).calls client world = [⟨target, .kind⟩] ∨
        ∃ document, (resolver.resolve request).calls client world =
          [⟨target, .kind⟩, ⟨document, .kind⟩] := by
  have rejects : cause.Rejects := ⟨validation, absent⟩
  by_cases creates : request.Mutates .create
  · have resolved : resolver.resolve request = create resolver request := resolve_of_mutates creates
    rw [resolved] at failed ⊢
    have calls := create_rejectsAfter resolver request σ client world after cause failed rejects
    rcases calls with ⟨none, unprepared⟩ | ⟨target, prepares, calls⟩
    · exact ⟨⟨fun _ target _ => unprepared target, fun _ => none⟩,
        fun target _ prepares => absurd prepares (unprepared target)⟩
    · refine ⟨⟨fun none => ?_, fun unprepared => absurd prepares (unprepared target creates)⟩,
        fun other _ prepares' => ?_⟩
      · rcases calls with calls | ⟨document, calls⟩ <;> cases none.symm.trans calls
      · rwa [prepares.unique prepares'] at calls
  · have none := resolve_rejectsAfter creates σ client world after cause failed rejects
    exact ⟨⟨fun _ _ mutates => absurd mutates creates, fun _ => none⟩,
      fun _ mutates => absurd mutates creates⟩

end Requests

open AddressBook

/-- An address that is no text. -/
def wrongAddress : Request :=
  field "ContactMutation" "update" [(inputArgument, .object [("email", .array [.int 1])])] (some ada)

/-- An address that is no text is rejected without a call: the store notes none. -/
theorem rejected_calls_iff_wrongAddress :
    ∃ cause after, (resolver.resolve wrongAddress).runIn Store.client stored = (.error cause, after) ∧
      cause.isValidation = true ∧ (∀ url, cause ≠ .alreadyExists url) ∧
      (resolver.resolve wrongAddress).calls Store.client stored = [] ∧
      after.resources.calls = stored.resources.calls := by
  obtain ⟨after, failed⟩ : ∃ after, (resolver.resolve wrongAddress).runIn Store.client stored =
      (.error (.invalidValue "http://schema.org/email" .string "1"), after) := ⟨_, rfl⟩
  have updates : wrongAddress.Mutates .update := ⟨rfl, rfl, by decide, rfl⟩
  obtain ⟨none_iff, -⟩ := rejected_calls_iff failed rfl nofun
  have none : (resolver.resolve wrongAddress).calls Store.client stored = [] := by
    refine none_iff.2 fun target creates => ?_
    cases updates.verb.symm.trans creates.verb
  have noted := Program.calls_run (resolver.resolve wrongAddress).run stored
  rw [show Program.run Store.client (resolver.resolve wrongAddress).run stored = _ from failed,
    show Program.calls Store.client (resolver.resolve wrongAddress).run stored = [] from none,
    List.append_nil] at noted
  exact ⟨_, after, failed, rfl, nofun, none, noted⟩

/-- An empty identifier is rejected after the container of the contacts was asked for its kind. -/
theorem rejected_after_call :
    ∃ after, (resolver.resolve (creation [(identifierField, .string "")])).runIn Store.client stored =
        (.error (.invalidArgument identifierField .emptyText), after) ∧
      ResolveError.isValidation (.invalidArgument identifierField .emptyText) = true ∧
      (resolver.resolve (creation [(identifierField, .string "")])).calls Store.client stored =
        [⟨AddressBook.container, .kind⟩] :=
  ⟨_, rfl, rfl, rfl⟩

end LinkedShapes.Resolution
