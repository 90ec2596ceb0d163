import LinkedShapes.Proofs.Actions
import LinkedShapes.Proofs.Stated

/-!
# Why a field may fail

Whatever a client answers, a resolution ends with one of the errors at the ends of its program. So the
causes of a failure can be read off the program, end by end. Where nothing is looked up in the schema by
a name that could be unknown, no failure is one of an unknown type.

## Main statements

* `Attempt.FailsOnly.bind`: the failures of one attempt after another.
* `Attempt.FailsOnly.runIn`: the cause of a failure of a run is one of those at the ends of its program.
* `lookUpInstance_failsOnly`, `lookUpCollection_failsOnly`: a look-up fails only where a call failed.
* `entryPoint_failsKnown`, `relationPatch_failsKnown`: entry points and changes of a relation.
-/

namespace LinkedShapes.Resolution

open Rdf Ldp Schema

variable {σ α β ε : Type}

/-! ### Failures of results -/

theorem except_bind_eq_error {value : Except ε α} {next : α → Except ε β} {cause : ε} :
    (value >>= next) = .error cause ↔
      value = .error cause ∨ ∃ a, value = .ok a ∧ next a = .error cause := by
  cases value with
  | error failure => simp [bind, Except.bind]
  | ok a => simp [bind, Except.bind]

/-- A function that fails on a list fails on an item of it. -/
theorem exists_of_mapM_eq_error {f : α → Except ε β} {items : List α} {cause : ε}
    (failed : items.mapM f = .error cause) : ∃ item ∈ items, f item = .error cause := by
  induction items with
  | nil => cases failed
  | cons item rest ih =>
    rw [List.mapM_cons, except_bind_eq_error] at failed
    rcases failed with head | ⟨first, -, failed⟩
    · exact ⟨item, List.mem_cons_self, head⟩
    · rcases except_bind_eq_error.1 failed with tail | ⟨others, -, ended⟩
      · obtain ⟨other, mem, failed⟩ := ih tail
        exact ⟨other, List.mem_cons_of_mem _ mem, failed⟩
      · cases ended

/-- A fold that fails does so at an item of the list. -/
theorem exists_of_foldlM_eq_error {step : β → α → Except ε β} {items : List α} {start : β} {cause : ε}
    (failed : items.foldlM step start = .error cause) :
    ∃ between, ∃ item ∈ items, step between item = .error cause := by
  induction items generalizing start with
  | nil => cases failed
  | cons item rest ih =>
    rw [List.foldlM_cons, except_bind_eq_error] at failed
    rcases failed with head | ⟨next, -, failed⟩
    · exact ⟨start, item, List.mem_cons_self, head⟩
    · obtain ⟨between, other, mem, failed⟩ := ih failed
      exact ⟨between, other, List.mem_cons_of_mem _ mem, failed⟩

/-- A result is no failure, or one with an allowed cause. -/
def Allows (allowed : ε → Prop) (value : Except ε α) : Prop :=
  ∀ cause, value = .error cause → allowed cause

theorem allows_error {allowed : ε → Prop} {cause : ε} (isAllowed : allowed cause) :
    Allows allowed (.error cause : Except ε α) := by
  rintro _ ⟨⟩
  exact isAllowed

namespace Attempt

variable {allowed : ResolveError → Prop}

/-- Every failure of the attempt has an allowed cause, whatever is answered. -/
def FailsOnly (allowed : ResolveError → Prop) (attempt : Attempt α) : Prop :=
  Program.Meets { allows := fun _ => True } (Allows allowed) attempt.run

theorem failsOnly_pure (value : α) : (pure value : Attempt α).FailsOnly allowed := nofun

theorem failsOnly_lift {value : Except ResolveError α} (allows : Allows allowed value) :
    (liftM value : Attempt α).FailsOnly allowed := allows

theorem failsOnly_throw {cause : ResolveError} (isAllowed : allowed cause) :
    (throw cause : Attempt α).FailsOnly allowed :=
  allows_error isAllowed

theorem failsOnly_askKind (url : String) : (askKind url).FailsOnly allowed :=
  ⟨trivial, fun _ _ => nofun⟩

theorem failsOnly_askDownload (url : String) : (askDownload url).FailsOnly allowed :=
  ⟨trivial, fun _ _ => nofun⟩

theorem failsOnly_newGraph (graph : Graph) : (newGraph graph).FailsOnly allowed :=
  ⟨trivial, fun _ _ => nofun⟩

theorem failsOnly_readGraph (ref : GraphRef) : (readGraph ref).FailsOnly allowed :=
  ⟨trivial, fun _ _ => nofun⟩

theorem failsOnly_changeGraph (ref : GraphRef) (patch : Patch) :
    (changeGraph ref patch).FailsOnly allowed := ⟨trivial, fun _ => nofun⟩

theorem failsOnly_freshName : freshName.FailsOnly allowed :=
  ⟨trivial, fun _ _ => nofun⟩

/-- After what is known without a call, another attempt follows if it is not an error. -/
theorem failsOnly_lift_bind {value : Except ResolveError α} {f : α → Attempt β}
    (allows : Allows allowed value) (rest : ∀ a, value = .ok a → (f a).FailsOnly allowed) :
    (liftM value >>= f).FailsOnly allowed := by
  cases value with
  | error cause => exact allows_error (allows cause rfl)
  | ok a => exact rest a rfl

theorem failsOnly_ofSchema_bind_of_eq {value : Except SchemaError α} {f : α → Attempt β} {a : α}
    (known : value = .ok a) (rest : (f a).FailsOnly allowed) :
    (ofSchema value >>= f).FailsOnly allowed := by
  subst known
  exact rest

theorem FailsOnly.bind {attempt : Attempt α} {f : α → Attempt β} (first : attempt.FailsOnly allowed)
    (rest : ∀ value, (f value).FailsOnly allowed) : (attempt >>= f).FailsOnly allowed := by
  refine Program.Meets.bind first fun value allows => ?_
  rcases value with cause | value
  · rintro _ ⟨⟩
    exact allows cause rfl
  · exact rest value

/-- The cause of a failure of a run is allowed. -/
theorem FailsOnly.runIn {attempt : Attempt α} (fails : attempt.FailsOnly allowed)
    (client : Client σ) (world : World σ) : Allows allowed (attempt.runIn client world).1 :=
  (Program.Meets.run fails (fun _ => True) (fun _ _ _ _ => ⟨trivial, trivial⟩) trivial).2

end Attempt

/-! ### Failures of calls -/

section Calls

open Attempt

variable {allowed : ResolveError → Prop} (calls : ∀ failure, allowed (.transport failure))

include calls

theorem failsOnly_answered (answer : Except Failure α) : (answered answer).FailsOnly allowed := by
  cases answer with
  | ok value => exact failsOnly_pure value
  | error failure => exact failsOnly_throw (calls failure)

theorem failsOnly_kind (url : String) : (Attempt.kind url).FailsOnly allowed :=
  (failsOnly_askKind url).bind (failsOnly_answered calls)

theorem failsOnly_download (url : String) : (Attempt.download url).FailsOnly allowed :=
  (failsOnly_askDownload url).bind (failsOnly_answered calls)

theorem failsOnly_write (url : String) (change : Write) : (write url change).FailsOnly allowed :=
  ⟨trivial, fun answer _ => failsOnly_answered calls answer⟩

/-- The look-up of an entity fails only where a call failed. -/
theorem lookUpInstance_failsOnly (cls target : String) (node : Node) :
    (lookUpInstance cls target node).FailsOnly allowed := by
  refine (failsOnly_kind calls target).bind fun kind => ?_
  refine (failsOnly_askDownload _).bind fun answer => ?_
  rcases answer with failure | graph
  · dsimp only
    split
    · exact failsOnly_pure none
    · exact failsOnly_throw (calls failure)
  · dsimp only
    split
    · exact (failsOnly_newGraph graph).bind fun _ => failsOnly_pure _
    · exact failsOnly_pure none

theorem downloadAll_failsOnly (urls : List String) : (downloadAll urls).FailsOnly allowed := by
  unfold downloadAll
  generalize Graph.empty = merged
  induction urls generalizing merged with
  | nil => exact failsOnly_pure merged
  | cons url rest ih =>
    rw [List.foldlM_cons]
    exact ((failsOnly_download calls url).bind fun _ => failsOnly_pure _).bind fun graph => ih graph

/-- The look-up of the instances of a class fails only where a call failed. -/
theorem lookUpCollection_failsOnly (cls target : String) :
    (lookUpCollection cls target).FailsOnly allowed := by
  refine (failsOnly_kind calls target).bind fun kind => ?_
  refine (failsOnly_download calls target).bind fun resource => ?_
  have made (graph : Graph) : (do
      let ref ← Attempt.newGraph graph
      let root : Context := { graph := ref, kind := kind, url := target }
      return (sortedInstances graph cls).map root.entity :
      Attempt (List Context)).FailsOnly allowed :=
    (failsOnly_newGraph graph).bind fun _ => failsOnly_pure _
  cases kind with
  | document => exact (failsOnly_pure resource).bind made
  | container => exact (downloadAll_failsOnly calls _).bind made

theorem lookUp_failsOnly (request : Request) (cls target : String) (node : Option Node) :
    (lookUp request cls target node).FailsOnly allowed := by
  cases node with
  | some node => exact (lookUpInstance_failsOnly calls cls target node).bind fun _ => failsOnly_pure _
  | none => exact (lookUpCollection_failsOnly calls cls target).bind fun _ => failsOnly_pure _

/-- A patch is applied unless it is refused. -/
theorem applyPatch_failsOnly (context : Context) (patch : Patch) :
    (applyPatch context patch).FailsOnly allowed := by
  unfold applyPatch
  split
  · exact failsOnly_pure ()
  · exact (failsOnly_write calls context.url _).bind fun _ => failsOnly_changeGraph _ _

theorem sendRemoval_failsOnly (context : Context) (deletes : List Triple) :
    (sendRemoval context deletes).FailsOnly allowed := by
  unfold sendRemoval
  split
  · exact failsOnly_write calls context.url .delete
  · split
    · exact failsOnly_pure ()
    · exact failsOnly_write calls context.url _

omit calls in
/-- An entity is always detached. -/
theorem detach_failsOnly (context : Context) (subject : String) (graph : Graph) :
    (detach context subject graph).FailsOnly allowed := by
  refine (failsOnly_changeGraph _ _).bind fun _ => ?_
  exact (failsOnly_newGraph _).bind fun _ => failsOnly_pure _

end Calls

/-! ### Failures that are not for an unknown type -/

/-- The failure is not that the schema lacks a type or a field. -/
def ResolveError.Known (cause : ResolveError) : Prop :=
  ∀ name, cause ≠ .schema (.unknownType name)

theorem ResolveError.known_transport (failure : Failure) : Known (.transport failure) := nofun

open Attempt ResolveError

/-! ### Parts of a request -/

section Parts

variable (resolver : Resolver) (request : Request)

theorem classOf_allowsKnown (typeName : String) : Allows Known (resolver.classOf typeName) := by
  unfold Resolver.classOf
  split
  · exact nofun
  · exact allows_error nofun

theorem target_allowsKnown (cls : String) : Allows Known (resolver.target cls) := by
  unfold Resolver.target
  split
  · exact nofun
  · exact allows_error nofun

theorem context_allows {allowed : ResolveError → Prop}
    (missing : ∀ field, allowed (.missingContext field)) : Allows allowed request.context := by
  unfold Request.context
  split
  · exact nofun
  · exact allows_error (missing _)

theorem namedSubject_allows {allowed : ResolveError → Prop} (notNamed : ∀ node, allowed (.notNamed node))
    (missing : ∀ field, allowed (.missingContext field)) (context : Context) :
    Allows allowed (namedSubject request context) := by
  unfold namedSubject
  split
  · exact nofun
  · exact allows_error (notNamed _)
  · exact allows_error (missing _)

theorem parseIdentifier_allowsKnown (value : Json) (name url : String) :
    Allows Known (parseIdentifier value name url) := by
  unfold parseIdentifier
  split
  · exact allows_error nofun
  · exact allows_error nofun
  · exact nofun

theorem identifierArgument_allowsKnown (url : String) :
    Allows Known (identifierArgument request url) := by
  unfold identifierArgument
  split
  · exact allows_error nofun
  · exact parseIdentifier_allowsKnown _ _ _

theorem inputObject_allows {allowed : ResolveError → Prop}
    (invalid : ∀ name fault, allowed (.invalidArgument name fault))
    (unknown : ∀ argument cause, request.field.argument? inputArgument = some argument →
      resolver.definition.input argument.type.name = .error cause → allowed (.schema cause)) :
    Allows allowed (inputObject resolver request) := by
  unfold inputObject
  split
  · exact allows_error (invalid _ _)
  · rename_i argument found
    split
    · rename_i cause failed
      exact allows_error (unknown argument cause found failed)
    · split
      · exact nofun
      · exact allows_error (invalid _ _)

/-- The input argument is not of an unknown type if it is of an input type of the schema. -/
theorem inputObject_allowsKnown
    (declared : ∀ argument, request.field.argument? inputArgument = some argument →
      ∃ type, resolver.definition.input argument.type.name = .ok type) :
    Allows Known (inputObject resolver request) := by
  refine inputObject_allows resolver request (fun _ _ => nofun) fun argument cause found failed => ?_
  obtain ⟨type, known⟩ := declared argument found
  cases known.symm.trans failed

end Parts

/-! ### Inputs -/

theorem inputText_allowsKnown (values : List (String × Json)) (name : String) :
    Allows Known (inputText values name) := by
  unfold inputText
  split
  · exact nofun
  · exact nofun
  · exact allows_error nofun
  · exact nofun
  · exact allows_error nofun

theorem checkedIri_allowsKnown (iri argument : String) : Allows Known (checkedIri iri argument) := by
  unfold checkedIri
  cases Iri.checked iri with
  | ok iri => exact nofun
  | error fault => exact allows_error nofun

theorem inputField_allows {allowed : ResolveError → Prop}
    (invalid : ∀ name fault, allowed (.invalidArgument name fault)) (type : InputType) (name : String) :
    Allows allowed (inputField type name) := by
  unfold inputField
  split
  · exact nofun
  · exact allows_error (invalid _ _)

theorem literalsOf_allows {allowed : ResolveError → Prop}
    (nonScalar : ∀ field typeName, allowed (.schema (.nonScalarInput field typeName)))
    (invalid : ∀ property scalar text, allowed (.invalidValue property scalar text))
    (field : InputField) (property : String) (value : Json) :
    Allows allowed (literalsOf field property value) := by
  unfold literalsOf
  split
  · exact allows_error (nonScalar _ _)
  · intro cause failed
    obtain ⟨item, -, failed⟩ := exists_of_mapM_eq_error failed
    split at failed
    · cases failed
    · cases failed
      exact invalid _ _ _

theorem statedTriples_allowsKnown (subject : String) (type : InputType)
    (values : List (String × Json)) : Allows Known (statedTriples subject type values) := by
  intro cause failed
  rcases except_bind_eq_error.1 failed with failed | ⟨triples, -, ended⟩
  · obtain ⟨⟨name, value⟩, -, failed⟩ := exists_of_mapM_eq_error failed
    rcases except_bind_eq_error.1 failed with failed | ⟨field, -, failed⟩
    · exact inputField_allows (fun _ _ => nofun) type name cause failed
    · split at failed
      · cases failed
      · rcases except_bind_eq_error.1 failed with failed | ⟨literals, -, ended⟩
        · exact literalsOf_allows (fun _ _ => nofun) (fun _ _ _ => nofun) _ _ _ cause failed
        · cases ended
  · cases ended

theorem mintSubject_failsKnown (document : String) (values : List (String × Json)) :
    (mintSubject document values).FailsOnly Known := by
  refine (failsOnly_lift (inputText_allowsKnown values identifierField)).bind fun given => ?_
  cases given with
  | some identifier => exact failsOnly_lift (checkedIri_allowsKnown _ _)
  | none =>
    have named : (nameOrFresh values).FailsOnly Known := by
      refine (failsOnly_lift (inputText_allowsKnown values slugField)).bind fun slug => ?_
      cases slug with
      | some slug => exact failsOnly_pure slug
      | none => exact failsOnly_freshName
    exact named.bind fun fragment => failsOnly_lift (checkedIri_allowsKnown _ _)

/-! ### Entry points -/

theorem entryNode_allowsKnown (request : Request) (target : String) :
    Allows Known (request.entryNode target) := by
  unfold Request.entryNode
  split
  · intro cause failed
    rcases except_bind_eq_error.1 failed with failed | ⟨iri, -, ended⟩
    · exact parseIdentifier_allowsKnown _ _ _ cause failed
    · cases ended
  · exact nofun

/-- Looking entities up never fails for an unknown type. -/
theorem entryPoint_failsKnown (resolver : Resolver) (request : Request) :
    (entryPoint resolver request).FailsOnly Known := by
  rw [entryPoint_eq]
  refine (failsOnly_lift (classOf_allowsKnown resolver _)).bind fun cls => ?_
  refine (failsOnly_lift (target_allowsKnown resolver cls)).bind fun target => ?_
  refine (failsOnly_lift (entryNode_allowsKnown request target)).bind fun node => ?_
  exact lookUp_failsOnly known_transport request cls target node

/-! ### Changing a relation -/

/-- The patch of a change of a relation never fails for an unknown type, if the input of a new entity
is of an input type of the schema. -/
theorem relationPatch_failsKnown {resolver : Resolver} {request : Request} (context : Context)
    (subject property : String) (field : Field) (links : List Triple) (change : RelationChange)
    (declared : ∀ argument, request.field.argument? inputArgument = some argument →
      ∃ type, resolver.definition.input argument.type.name = .ok type) :
    (relationPatch resolver request context subject property field links change).FailsOnly
      Known := by
  have linked (deletes : List Triple) : (newLinkPatch resolver request context subject property field
      deletes).FailsOnly Known := by
    refine (failsOnly_lift (classOf_allowsKnown resolver _)).bind fun cls => ?_
    refine (failsOnly_lift (inputObject_allowsKnown resolver request declared)).bind
      fun (type, values) => ?_
    refine (mintSubject_failsKnown context.url values).bind fun child => ?_
    exact (failsOnly_lift (statedTriples_allowsKnown child type values)).bind
      fun _ => failsOnly_pure _
  cases change with
  | set => exact linked links
  | add => exact linked []
  | clear => exact failsOnly_pure _
  | link | remove | unlink =>
    exact (failsOnly_lift (identifierArgument_allowsKnown request context.url)).bind
      fun _ => failsOnly_pure _

end LinkedShapes.Resolution
