import LinkedShapes.Proofs.Calls
import LinkedShapes.Proofs.DeletedState
import LinkedShapes.Proofs.Instance
import Mathlib.Logic.Relation

/-!
# Reading writes nothing

A field asks for a change only if it belongs to the root of mutations or to a mutator, no change was made
on the way to it, and it is not read from the context of its entity. Every other field is read: it asks
questions, and makes shared graphs for what is answered, but it sends no change and leaves the graphs that
there are as they were. What a change answers is marked as handled, and the mark is kept along every path
of fields, so that nothing that is read below a change can make it once more.

## Main statements

* `Inquires.isWrite_of_mem_calls`, `Inquires.runIn_extends`: an attempt that inquires sends no change and
  keeps the graphs.
* `Request.Queries.inquires`: the resolution of a field that is only read inquires.
* `handled_of_returns_change`: what a change answers is marked as handled.
* `reading_writes_nothing`: both, of every field and of all that is read below a change.
-/

namespace LinkedShapes.Resolution

open Rdf Ldp Schema

variable {σ α β : Type} {client : Client σ} {world between after : World σ}

/-! ### Programs that change nothing -/

/-- Each shared graph is as it was; there may be more of them. -/
structure World.Extends (world after : World σ) : Prop where
  /-- No graph is gone. -/
  size : world.graphs.size ≤ after.graphs.size
  /-- No graph is changed. -/
  graph : ∀ ref < world.graphs.size, after.graph ref = world.graph ref

namespace World.Extends

theorem of_graphs_eq (same : after.graphs = world.graphs) : world.Extends after :=
  ⟨Nat.le_of_eq (congrArg Array.size same.symm), fun ref _ => by rw [World.graph, same, World.graph]⟩

theorem refl (world : World σ) : world.Extends world := of_graphs_eq rfl

theorem trans (first : world.Extends between) (second : between.Extends after) : world.Extends after :=
  ⟨Nat.le_trans first.size second.size, fun ref there =>
    (second.graph ref (Nat.lt_of_lt_of_le there first.size)).trans (first.graph ref there)⟩

theorem of_push {graph : Graph} (made : after.graphs = world.graphs.push graph) : world.Extends after :=
  ⟨by rw [made, Array.size_push]; exact Nat.le_succ _, fun _ => World.graph_of_push_of_lt made⟩

end World.Extends

namespace Action

variable {action : Action}

/-- The action asks a question, draws a name, or makes or reads a shared graph; it changes nothing that
there is. -/
def Inquires : Action → Prop
  | .kind _ | .download _ | .newGraph _ | .readGraph _ | .freshName => True
  | .write _ _ | .changeGraph _ _ => False

theorem Observes.inquires (observes : action.Observes true) : action.Inquires := by
  cases action with
  | write | newGraph | changeGraph => exact observes.elim
  | kind | download | readGraph | freshName => trivial

/-- An action that inquires sends no change. -/
theorem Inquires.makes (inquires : action.Inquires) :
    action.Makes fun call => call.isWrite = false := by
  intro call made
  cases action with
  | kind | download =>
    obtain rfl := Option.some.inj made
    rfl
  | write | changeGraph => exact inquires.elim
  | newGraph | readGraph | freshName => cases made

/-- An action that inquires leaves the shared graphs as they were. -/
theorem Inquires.extends_perform (inquires : action.Inquires) (client : Client σ) (world : World σ) :
    world.Extends (action.perform client world).2 := by
  cases action with
  | newGraph graph => exact .of_push rfl
  | write | changeGraph => exact inquires.elim
  | kind | download | readGraph | freshName => exact .of_graphs_eq rfl

end Action

namespace Attempt

/-- The attempt changes nothing that there is: see `Action.Inquires`. -/
abbrev Inquires (attempt : Attempt α) : Prop := attempt.Takes Action.Inquires

theorem inquires_newGraph (graph : Graph) : (newGraph graph).Inquires := takes_newGraph trivial

theorem Observes.inquires {attempt : Attempt α} (observes : attempt.Observes true) :
    attempt.Inquires :=
  observes.mono fun _ observes => observes.inquires

theorem Inquires.isWrite_of_mem_calls {attempt : Attempt α} (inquires : attempt.Inquires)
    {call : Call} (mem : call ∈ attempt.calls client world) : call.isWrite = false :=
  (inquires.mono fun _ inquires => inquires.makes).of_mem_calls mem

/-- A run of an attempt that inquires leaves the shared graphs as they were. -/
theorem Inquires.runIn_extends {attempt : Attempt α} (inquires : attempt.Inquires)
    (client : Client σ) (world : World σ) : world.Extends (attempt.runIn client world).2 :=
  inquires.runIn_keeps world.Extends
    (fun _ between inquires first => first.trans (inquires.extends_perform client between)) (.refl world)

end Attempt

/-! ### Fields that are read -/

section Queries

open Attempt

variable {resolver : Resolver} {request : Request}

theorem lookUpInstance_inquires (cls target : String) (node : Node) :
    (lookUpInstance cls target node).Inquires := by
  refine (observes_kind target).inquires.bind fun kind => ?_
  refine (observes_askDownload _).inquires.bind fun answer => ?_
  rcases answer with failure | graph
  · dsimp only
    split
    · exact takes_pure none
    · exact takes_throw _
  · dsimp only
    split
    · exact (inquires_newGraph graph).bind fun _ => takes_pure _
    · exact takes_pure none

theorem lookUpCollection_inquires (cls target : String) : (lookUpCollection cls target).Inquires := by
  refine (observes_kind target).inquires.bind fun kind => ?_
  refine (observes_download target).inquires.bind fun resource => ?_
  cases kind with
  | document => exact (inquires_newGraph resource).bind fun _ => takes_pure _
  | container =>
    refine (observes_downloadAll _).inquires.bind fun graph => ?_
    exact (inquires_newGraph graph).bind fun _ => takes_pure _

theorem entryPoint_inquires (resolver : Resolver) (request : Request) :
    (entryPoint resolver request).Inquires := by
  rw [entryPoint_eq]
  refine (takes_lift _).bind fun cls => ?_
  refine (takes_lift _).bind fun target => ?_
  refine (takes_lift _).bind fun node => ?_
  cases node with
  | some node => exact (lookUpInstance_inquires cls target node).bind fun _ => takes_pure _
  | none => exact (lookUpCollection_inquires cls target).bind fun _ => takes_pure _

/-- The field is only read. -/
inductive Request.Queries (request : Request) : Prop where
  /-- It belongs neither to the root of mutations nor to a mutator. -/
  | outside (root : request.owner.name ≠ mutationType)
      (mutator : ∀ entity, request.owner.kind ≠ .mutator entity)
  /-- A change was made on the way to it. -/
  | below (context : Context) (parent : request.parent = some context) (handled : context.handled = true)
  /-- It is read from the context of its entity. -/
  | member (reads : Reads request.field)

theorem Request.isMutation_iff :
    request.isMutation = true ↔
      request.owner.name = mutationType ∨ ∃ entity, request.owner.kind = .mutator entity := by
  unfold Request.isMutation
  cases request.owner.kind <;> simp

/-- An entry point that is only read looks entities up. -/
theorem Request.Queries.resolve_eq (queries : request.Queries) (entry : ¬ Reads request.field) :
    resolver.resolve request = entryPoint resolver request := by
  rw [resolve_of_not_reads entry]
  cases queries with
  | outside root mutator =>
    have query : request.isMutation = false := by
      rw [Bool.eq_false_iff, ne_eq, Request.isMutation_iff]
      rintro (isRoot | ⟨entity, isMutator⟩)
      · exact root isRoot
      · exact mutator entity isMutator
    simp [query]
  | below context parent handled => simp [Request.isHandled, parent, handled]
  | member reads => exact absurd reads entry

/-- A field that is not only read asks for the change that its name stands for. -/
theorem Request.mutates_of_not_queries (changes : ¬ request.Queries) :
    request.Mutates (MutationKind.ofName request.field.name).1 where
  mutation := by
    rw [Request.isMutation_iff]
    by_contra outside
    rw [not_or, not_exists] at outside
    exact changes (.outside outside.1 outside.2)
  unhandled := by
    rw [Request.isHandled, Bool.eq_false_iff]
    intro below
    obtain ⟨context, parent, handled⟩ := (Option.any_eq_true _ _).1 below
    exact changes (.below context parent handled)
  entry reads := changes (.member reads)
  verb := rfl

/-- A field that is read from the context of its entity asks and changes nothing. -/
theorem observes_of_reads {asks : Bool} (resolver : Resolver) (reads : Reads request.field) :
    (resolver.resolve request).Observes asks := by
  unfold Resolver.resolve
  rcases reads_iff.1 reads with identifier | ⟨property, stands⟩
  · simp only [identifier]
    exact (takes_lift _).bind fun _ => takes_pure _
  · simp only [stands]
    split
    · refine (takes_lift _).bind fun context => ?_
      cases context.subject with
      | none => exact takes_pure _
      | some node => exact (observes_readGraph _).bind fun _ => takes_pure _
    · refine (takes_lift _).bind fun context => ?_
      cases context.subject with
      | none => exact takes_pure _
      | some node => exact (observes_readGraph _).bind fun _ => takes_pure _

/-- A field that is only read inquires. -/
theorem Request.Queries.inquires (queries : request.Queries) (resolver : Resolver) :
    (resolver.resolve request).Inquires := by
  by_cases reads : Reads request.field
  · exact (observes_of_reads resolver reads).inquires
  · rw [queries.resolve_eq reads]
    exact entryPoint_inquires resolver request

end Queries

/-! ### What is read below a change -/

section Handled

open Attempt

variable {resolver : Resolver} {request : Request} {context next : Context} {result : Resolved}
  {kind : MutationKind}

/-- An entity has a field that is read from its context and that leads to another one, in some world. -/
def Leads (resolver : Resolver) (client : Client σ) (context next : Context) : Prop :=
  ∃ request world value after place, request.parent = some context ∧ Reads request.field ∧
    (resolver.resolve request).Returns client world value after ∧ value.entityAt place = some next

/-- What an entity leads to is marked as handled as the entity is. -/
theorem Leads.handled_eq (leads : Leads resolver client context next) :
    next.handled = context.handled := by
  obtain ⟨request, world, value, after, place, parent, reads, ran, led⟩ := leads
  have read : (resolver.resolve request).Returns client world _ world :=
    returns_resolve_of_reads reads parent
  obtain rfl : readField resolver request.field context (world.graph context.graph) = value :=
    Except.ok.inj (congrArg Prod.fst (read.symm.trans ran))
  obtain ⟨_, _, -, -, n, -, rfl⟩ := exists_linked_of_entityAt led
  exact context.handled_entity n

/-- What is read below a change is marked as handled. -/
theorem handled_of_leads (handled : context.handled = true)
    (path : Relation.ReflTransGen (Leads resolver client) context next) : next.handled = true := by
  induction path with
  | refl => exact handled
  | tail _ leads ih => exact leads.handled_eq.trans ih

/-- The value is an entity, and marked as handled. -/
def Resolved.IsHandled (result : Resolved) : Prop :=
  ∃ context, result = .node context ∧ context.handled = true

theorem handled_of_returns_writeNew {cls document subject : String} {type : InputType}
    {values : List (String × Json)} {kind : ResourceKind}
    (ran : (writeNew cls type values kind document subject).Returns client world result after) :
    result.IsHandled := by
  obtain ⟨stated, _, -, ran⟩ := returns_bind.1 ran
  obtain ⟨_, _, -, ran⟩ := returns_bind.1 ran
  obtain ⟨ref, -, rfl⟩ := returns_bind_pure.1 ran
  exact ⟨_, rfl, rfl⟩

theorem handled_of_returns_create
    (ran : (create resolver request).Returns client world result after) : result.IsHandled := by
  rw [create_eq] at ran
  obtain ⟨cls, _, -, ran⟩ := returns_bind.1 ran
  obtain ⟨target, _, -, ran⟩ := returns_bind.1 ran
  obtain ⟨⟨type, values⟩, _, -, ran⟩ := returns_bind.1 ran
  obtain ⟨kind, _, -, ran⟩ := returns_bind.1 ran
  cases kind with
  | container =>
    obtain ⟨⟨document, subject⟩, _, -, ran⟩ := returns_bind.1 ran
    obtain ⟨_, _, -, ran⟩ := returns_bind.1 ran
    exact handled_of_returns_writeNew ran
  | document =>
    obtain ⟨subject, _, -, ran⟩ := returns_bind.1 ran
    exact handled_of_returns_writeNew ran

theorem handled_of_returns_delete (ran : (delete request).Returns client world result after) :
    result.IsHandled := by
  cases parent : request.parent with
  | none =>
    obtain ⟨context, given, -⟩ := returns_lift_bind.1 ran
    simp [Request.context, parent] at given
  | some context =>
    obtain ⟨subject, ref, -, rfl, -⟩ := graph_of_returns_delete parent ran
    exact ⟨_, rfl, rfl⟩

theorem handled_of_returns_update
    (ran : (update resolver request).Returns client world result after) : result.IsHandled := by
  obtain ⟨context, _, -, ran⟩ := returns_bind.1 ran
  obtain ⟨subject, _, -, ran⟩ := returns_bind.1 ran
  obtain ⟨entity, _, -, ran⟩ := returns_bind.1 ran
  obtain ⟨⟨type, values⟩, _, -, ran⟩ := returns_bind.1 ran
  obtain ⟨graph, _, -, ran⟩ := returns_bind.1 ran
  obtain ⟨patch, _, -, ran⟩ := returns_bind.1 ran
  obtain ⟨_, -, rfl⟩ := returns_bind_pure.1 ran
  exact ⟨_, rfl, rfl⟩

theorem handled_of_returns_changeRelation {change : RelationChange} {suffix : String}
    (ran : (changeRelation resolver request change suffix).Returns client world result after) :
    result.IsHandled := by
  obtain ⟨context, _, -, ran⟩ := returns_bind.1 ran
  obtain ⟨subject, _, -, ran⟩ := returns_bind.1 ran
  obtain ⟨⟨field, property⟩, _, -, ran⟩ := returns_bind.1 ran
  obtain ⟨graph, _, -, ran⟩ := returns_bind.1 ran
  obtain ⟨patch, _, -, ran⟩ := returns_bind.1 ran
  obtain ⟨_, -, rfl⟩ := returns_bind_pure.1 ran
  exact ⟨_, rfl, rfl⟩

/-- The kinds of mutations that change something, rather than look an entity up. -/
def MutationKind.changes : MutationKind → Bool
  | .mutate | .read => false
  | .create | .update | .delete | .relation _ => true

/-- A change is answered with an entity that is marked as handled. -/
theorem handled_of_returns_change (mutates : request.Mutates kind) (changes : kind.changes = true)
    (ran : (resolver.resolve request).Returns client world result after) : result.IsHandled := by
  rw [resolve_of_mutates mutates] at ran
  cases kind with
  | create => exact handled_of_returns_create ran
  | update => exact handled_of_returns_update ran
  | delete => exact handled_of_returns_delete ran
  | relation change => exact handled_of_returns_changeRelation ran
  | mutate | read => cases changes

/-- A field that is only read sends no change and leaves the shared graphs as they were, and all that is
read below a change is marked as handled. -/
theorem reading_writes_nothing (resolver : Resolver) (client : Client σ) :
    (∀ request : Request, request.Queries → ∀ world : World σ,
      (∀ call ∈ (resolver.resolve request).calls client world, call.isWrite = false) ∧
        world.Extends (resolver.settle client world request)) ∧
    ∀ (request : Request) (kind : MutationKind) (world after : World σ) (result : Resolved),
      request.Mutates kind → kind.changes = true →
      (resolver.resolve request).Returns client world result after →
      ∃ context, result = .node context ∧
        ∀ next, Relation.ReflTransGen (Leads resolver client) context next → next.handled = true := by
  refine ⟨fun request queries world => ?_, fun request kind world after result mutates changes ran => ?_⟩
  · have inquires := queries.inquires resolver
    exact ⟨fun call mem => inquires.isWrite_of_mem_calls mem, inquires.runIn_extends client world⟩
  · obtain ⟨context, rfl, handled⟩ := handled_of_returns_change mutates changes ran
    exact ⟨context, rfl, fun next path => handled_of_leads handled path⟩

end Handled

open AddressBook

/-- The update of the addresses of a contact, asked for below a change of the contact. -/
def repeatedChange : Request :=
  { addressChange with parent := some ada.afterMutation }

/-- An update is made once: asked for again below its answer, it writes nothing, and whom the contact
knows is marked as handled as the contact is. -/
theorem reading_writes_nothing_repeated :
    ((resolver.resolve addressChange).calls Store.client stored).any Call.isWrite = true ∧
      (∀ call ∈ (resolver.resolve repeatedChange).calls Store.client stored, call.isWrite = false) ∧
      stored.Extends (resolver.settle Store.client stored repeatedChange) ∧
      ∃ context after next,
        (resolver.resolve addressChange).Returns Store.client stored (.node context) after ∧
        Leads resolver Store.client context next ∧ next ≠ context ∧ next.handled = true := by
  obtain ⟨reads, changes⟩ := reading_writes_nothing resolver Store.client
  have queries : repeatedChange.Queries := .below ada.afterMutation rfl rfl
  have mutates : addressChange.Mutates .update := ⟨rfl, rfl, by decide, rfl⟩
  obtain ⟨after, ran⟩ : ∃ after, (resolver.resolve addressChange).Returns Store.client stored
      (.node ada.afterMutation) after := ⟨_, rfl⟩
  let knows := field "Contact" "knows" [] (some ada.afterMutation)
  let joe : Context := ada.afterMutation.entity (.iri "http://example.org/contacts/ada#joe")
  have read : (resolver.resolve knows).Returns Store.client stored _ stored :=
    returns_resolve_of_reads (by decide) rfl
  have leads : Leads resolver Store.client ada.afterMutation joe :=
    ⟨knows, stored, _, stored, 0, rfl, by decide, read, by decide +kernel⟩
  obtain ⟨_, answer, handled⟩ := changes _ _ _ _ _ mutates rfl ran
  obtain rfl := Resolved.node.inj answer
  exact ⟨by decide +kernel, (reads _ queries stored).1, (reads _ queries stored).2, _, after, joe, ran,
    leads, by decide, handled joe (.single leads)⟩

end LinkedShapes.Resolution
