import LinkedShapes.Proofs.Attempt

/-!
# The actions of programs

A program takes one action after another and goes on with what is answered to each. A contract says which
actions may be taken and which answers may be given, and a program meets it if it takes no other action,
whatever of this is answered, and its result is as it should be. Programs that meet a contract do so one
after another, and what every allowed action keeps is kept by a run. What is said of programs elsewhere,
that they change nothing or make only certain calls, is said by a contract.

## Main statements

* `Program.byActions`: induction on a program, one action at a time.
* `Program.Meets.bind`, `Attempt.Takes.bind`: one after another, programs keep to a contract.
* `Program.Meets.run`, `Attempt.Takes.runIn_keeps`: what every allowed action keeps is kept by a run.
-/

namespace LinkedShapes.Resolution

open Rdf Ldp Schema

variable {σ α β : Type} {client : Client σ} {world : World σ}

/-! ### Actions -/

/-- What a program does in one step. -/
inductive Action where
  /-- Asks for the kind of a resource. -/
  | kind (url : String)
  /-- Asks for the triples of a resource. -/
  | download (url : String)
  /-- Changes a resource. -/
  | write (url : String) (change : Write)
  /-- Makes a shared graph. -/
  | newGraph (graph : Graph)
  /-- Reads a shared graph. -/
  | readGraph (ref : GraphRef)
  /-- Changes a shared graph. -/
  | changeGraph (ref : GraphRef) (patch : Patch)
  /-- Draws a name. -/
  | freshName

namespace Action

/-- What is answered to an action. -/
@[reducible]
def Answer : Action → Type
  | .kind _ => Except Failure ResourceKind
  | .download _ => Except Failure Graph
  | .write _ _ => Except Failure Unit
  | .newGraph _ => GraphRef
  | .readGraph _ => Graph
  | .changeGraph _ _ => Unit
  | .freshName => String

/-- The program that takes an action and goes on with the answer. -/
def andThen (action : Action) (next : action.Answer → Program α) : Program α :=
  match action, next with
  | .kind url, next => .kind url next
  | .download url, next => .download url next
  | .write url change, next => .write url change next
  | .newGraph graph, next => .newGraph graph next
  | .readGraph ref, next => .readGraph ref next
  | .changeGraph ref patch, next => .changeGraph ref patch (next ())
  | .freshName, next => .freshName next

/-- Takes an action in a world: what is answered, and the world after it. -/
def perform (client : Client σ) (world : World σ) : (action : Action) → action.Answer × World σ
  | .kind url =>
    let (answer, resources) := client.kind url world.resources
    (answer, { world with resources })
  | .download url =>
    let (answer, resources) := client.download url world.resources
    (answer, { world with resources })
  | .write url change =>
    let (answer, resources) := client.write url change world.resources
    (answer, { world with resources })
  | .newGraph graph => world.addGraph graph
  | .readGraph ref => (world.graph ref, world)
  | .changeGraph ref patch => ((), world.patchGraph ref patch)
  | .freshName =>
    let (name, names) := world.names.next
    (name, { world with names })

end Action

namespace Program

/-- A property holds of a program if it holds of every result, and of a program that takes an action if it
holds of what follows, whatever is answered. -/
@[elab_as_elim]
theorem byActions {motive : Program α → Prop} (done : ∀ value, motive (.done value))
    (act : ∀ (action : Action) (next : action.Answer → Program α),
      (∀ answer, motive (next answer)) → motive (action.andThen next))
    (program : Program α) : motive program := by
  induction program with
  | done value => exact done value
  | kind url next ih => exact act (.kind url) next ih
  | download url next ih => exact act (.download url) next ih
  | write url change next ih => exact act (.write url change) next ih
  | newGraph graph next ih => exact act (.newGraph graph) next ih
  | readGraph ref next ih => exact act (.readGraph ref) next ih
  | changeGraph ref patch next ih => exact act (.changeGraph ref patch) (fun _ => next) fun _ => ih
  | freshName next ih => exact act .freshName next ih

section Steps

variable {action : Action} {next : action.Answer → Program α}

theorem bind_andThen (f : α → Program β) :
    (action.andThen next).bind f = action.andThen fun answer => (next answer).bind f := by
  cases action <;> rfl

theorem run_andThen :
    (action.andThen next).run client world =
      (next (action.perform client world).1).run client (action.perform client world).2 := by
  cases action <;> rfl

end Steps

end Program

/-! ### Contracts -/

/-- What a program may do, and what may be answered. -/
structure Contract where
  /-- The actions that are allowed. -/
  allows : Action → Prop
  /-- The answers that an action may get. -/
  answers : (action : Action) → action.Answer → Prop := fun _ _ => True

namespace Program

variable {contract : Contract} {mid : α → Prop} {post : β → Prop} {allowed other : Action → Prop}

/-- The program takes allowed actions only, and a property holds of its result, as long as its actions get
the answers that they may get. -/
def Meets (contract : Contract) (post : α → Prop) : Program α → Prop
  | .done value => post value
  | .kind url next => contract.allows (.kind url) ∧
      ∀ answer, contract.answers (.kind url) answer → (next answer).Meets contract post
  | .download url next => contract.allows (.download url) ∧
      ∀ answer, contract.answers (.download url) answer → (next answer).Meets contract post
  | .write url change next => contract.allows (.write url change) ∧
      ∀ answer, contract.answers (.write url change) answer → (next answer).Meets contract post
  | .newGraph graph next => contract.allows (.newGraph graph) ∧
      ∀ ref, contract.answers (.newGraph graph) ref → (next ref).Meets contract post
  | .readGraph ref next => contract.allows (.readGraph ref) ∧
      ∀ graph, contract.answers (.readGraph ref) graph → (next graph).Meets contract post
  | .changeGraph ref patch next => contract.allows (.changeGraph ref patch) ∧
      (contract.answers (.changeGraph ref patch) () → next.Meets contract post)
  | .freshName next => contract.allows .freshName ∧
      ∀ name, contract.answers .freshName name → (next name).Meets contract post

theorem meets_andThen {action : Action} {next : action.Answer → Program α} :
    (action.andThen next).Meets contract mid ↔
      contract.allows action ∧
        ∀ answer, contract.answers action answer → (next answer).Meets contract mid := by
  cases action with
  | changeGraph ref patch => exact and_congr_right' ⟨fun rest _ => rest, fun rest => rest ()⟩
  | _ => exact Iff.rfl

theorem Meets.bind {program : Program α} {f : α → Program β} (first : program.Meets contract mid)
    (rest : ∀ value, mid value → (f value).Meets contract post) :
    (program.bind f).Meets contract post := by
  induction program using byActions with
  | done value => exact rest value first
  | act action next ih =>
    obtain ⟨isAllowed, goesOn⟩ := meets_andThen.1 first
    rw [bind_andThen]
    exact meets_andThen.2 ⟨isAllowed, fun answer given => ih answer (goesOn answer given)⟩

/-- What every allowed action keeps is kept by a run, and the result of the run is as it should be. -/
theorem Meets.run {program : Program α} (meets : program.Meets contract mid)
    (holds : World σ → Prop)
    (keeps : ∀ (action : Action) (world : World σ), contract.allows action → holds world →
      contract.answers action (action.perform client world).1 ∧
        holds (action.perform client world).2)
    (start : holds world) :
    holds (program.run client world).2 ∧ mid (program.run client world).1 := by
  induction program using byActions generalizing world with
  | done value => exact ⟨start, meets⟩
  | act action next ih =>
    obtain ⟨isAllowed, goesOn⟩ := meets_andThen.1 meets
    obtain ⟨given, kept⟩ := keeps action world isAllowed start
    rw [run_andThen]
    exact ih _ (goesOn _ given) kept

/-- Every action that the program can take is allowed. -/
def Takes (allowed : Action → Prop) : Program α → Prop :=
  Meets { allows := allowed } fun _ => True

theorem takes_andThen {action : Action} {next : action.Answer → Program α} :
    (action.andThen next).Takes allowed ↔
      allowed action ∧ ∀ answer, (next answer).Takes allowed := by
  simp [Takes, meets_andThen]

theorem Takes.mono {program : Program α} (takes : program.Takes allowed)
    (wider : ∀ action, allowed action → other action) : program.Takes other := by
  induction program using byActions with
  | done value => trivial
  | act action next ih =>
    obtain ⟨isAllowed, goesOn⟩ := takes_andThen.1 takes
    exact takes_andThen.2 ⟨wider action isAllowed, fun answer => ih answer (goesOn answer)⟩

end Program

/-! ### Attempts -/

namespace Attempt

variable {allowed other : Action → Prop}

/-- Every action that the attempt can take is allowed. -/
def Takes (allowed : Action → Prop) (attempt : Attempt α) : Prop :=
  Program.Takes allowed attempt.run

theorem takes_pure (value : α) : (pure value : Attempt α).Takes allowed := trivial

theorem takes_throw (cause : ResolveError) : (throw cause : Attempt α).Takes allowed := trivial

theorem takes_lift (value : Except ResolveError α) : (liftM value : Attempt α).Takes allowed := trivial

theorem takes_ofSchema (value : Except SchemaError α) : (ofSchema value).Takes allowed := by
  cases value <;> trivial

theorem takes_answered (answer : Except Failure α) : (answered answer).Takes allowed := by
  cases answer <;> trivial

theorem takes_write {url : String} {change : Write} (isAllowed : allowed (.write url change)) :
    (write url change).Takes allowed := by
  refine ⟨isAllowed, fun answer _ => ?_⟩
  cases answer <;> trivial

theorem takes_newGraph {graph : Graph} (isAllowed : allowed (.newGraph graph)) :
    (newGraph graph).Takes allowed :=
  ⟨isAllowed, fun _ _ => trivial⟩

theorem takes_changeGraph {ref : GraphRef} {patch : Patch}
    (isAllowed : allowed (.changeGraph ref patch)) : (changeGraph ref patch).Takes allowed :=
  ⟨isAllowed, fun _ => trivial⟩

theorem Takes.bind {attempt : Attempt α} {f : α → Attempt β} (first : attempt.Takes allowed)
    (rest : ∀ value, (f value).Takes allowed) : (attempt >>= f).Takes allowed := by
  refine Program.Meets.bind first fun value _ => ?_
  rcases value with cause | value
  · trivial
  · exact rest value

theorem takes_lift_bind {value : Except ResolveError α} {f : α → Attempt β}
    (rest : ∀ a, value = .ok a → (f a).Takes allowed) : (liftM value >>= f).Takes allowed := by
  cases value with
  | ok a => exact rest a rfl
  | error cause => trivial

theorem Takes.mono {attempt : Attempt α} (takes : attempt.Takes allowed)
    (wider : ∀ action, allowed action → other action) : attempt.Takes other :=
  Program.Takes.mono takes wider

/-- What every allowed action keeps is kept by a run, one that fails included. -/
theorem Takes.runIn_keeps {attempt : Attempt α} (takes : attempt.Takes allowed)
    (holds : World σ → Prop)
    (keeps : ∀ (action : Action) (world : World σ), allowed action → holds world →
      holds (action.perform client world).2)
    (start : holds world) : holds (attempt.runIn client world).2 := by
  refine (Program.Meets.run takes holds (fun action between isAllowed kept => ?_) start).1
  exact ⟨trivial, keeps action between isAllowed kept⟩

end Attempt

end LinkedShapes.Resolution
