import LinkedShapes.Proofs.Calls
import Mathlib.Logic.Function.Basic

/-!
# Programs that take turns

Requests that are answered at the same time share one world: each of them takes a step when it is its
turn, and finds the world as the steps of all others have left it. A step is a single call, or a single use
of the shared graphs or of the source of names; between any two steps the others may take any number of
theirs. The order of the turns is a schedule, and nothing is assumed of it.

## Main statements

* `Program.run_step`, `Program.calls_step`: a run is its first step and the run of what is left.
* `Interleaving.run_invariant`: what every step keeps is kept by every schedule.
* `Interleaving.exists_run_eq_finish`: a program that has all the turns runs as it does by itself.
* `Interleaving.exists_run_done`: whatever was done, there is a schedule that brings programs to an end.
-/

namespace LinkedShapes.Resolution

open Rdf Ldp

variable {σ α ι : Type} {client : Client σ}

/-! ### One step -/

/-- What one step of a program comes to. -/
structure Program.Step (α σ : Type) where
  /-- The call that was made, if one was. -/
  call? : Option Call := none
  /-- What is left of the program. -/
  rest : Program α
  /-- The world after the step. -/
  world : World σ

namespace Program

/-- One step of a program. A program that has ended stays as it is. -/
def step (client : Client σ) (program : Program α) (world : World σ) : Step α σ :=
  match program with
  | .done value => { rest := .done value, world }
  | .kind url next =>
    let (answer, resources) := client.kind url world.resources
    { call? := some ⟨url, .kind⟩, rest := next answer, world := { world with resources } }
  | .download url next =>
    let (answer, resources) := client.download url world.resources
    { call? := some ⟨url, .download⟩, rest := next answer, world := { world with resources } }
  | .write url change next =>
    let (answer, resources) := client.write url change world.resources
    { call? := some ⟨url, .write change⟩, rest := next answer, world := { world with resources } }
  | .newGraph graph next =>
    let (ref, world) := world.addGraph graph
    { rest := next ref, world }
  | .readGraph ref next => { rest := next (world.graph ref), world }
  | .changeGraph ref patch next => { rest := next, world := world.patchGraph ref patch }
  | .freshName next =>
    let (name, names) := world.names.next
    { rest := next name, world := { world with names } }

theorem rest_step_andThen {action : Action} {next : action.Answer → Program α} {world : World σ} :
    ((action.andThen next).step client world).rest = next (action.perform client world).1 := by
  cases action <;> rfl

/-- A run ends as the run of what is left after a step. -/
theorem run_step (program : Program α) (world : World σ) :
    (program.step client world).rest.run client (program.step client world).world =
      program.run client world := by
  cases program <;> rfl

/-- A run makes the call of its first step, and the calls of the run of what is left. -/
theorem calls_step (program : Program α) (world : World σ) :
    (program.step client world).call?.toList ++
      (program.step client world).rest.calls client (program.step client world).world =
      program.calls client world := by
  cases program <;> rfl

end Program

/-! ### Turns -/

/-- What programs that take turns have done so far. -/
@[ext]
structure Interleaving (ι α σ : Type) where
  /-- The calls in the order in which they were made, and who made each. -/
  trace : List (ι × Call)
  /-- What is left of each program. -/
  programs : ι → Program α
  /-- The world that they share. -/
  world : World σ

namespace Interleaving

variable [DecidableEq ι] {state : Interleaving ι α σ} {turn who : ι}

/-- Nothing was done yet. -/
def start (programs : ι → Program α) (world : World σ) : Interleaving ι α σ where
  trace := []
  programs := programs
  world := world

/-- The step of the one whose turn it is. -/
def next (client : Client σ) (state : Interleaving ι α σ) (turn : ι) : Program.Step α σ :=
  (state.programs turn).step client state.world

/-- One of the programs takes a step. -/
def step (client : Client σ) (state : Interleaving ι α σ) (turn : ι) : Interleaving ι α σ where
  trace := state.trace ++ (state.next client turn).call?.toList.map (turn, ·)
  programs := Function.update state.programs turn (state.next client turn).rest
  world := (state.next client turn).world

/-- The programs take steps in the order of a schedule. -/
def run (client : Client σ) (state : Interleaving ι α σ) (schedule : List ι) : Interleaving ι α σ :=
  schedule.foldl (step client) state

/-- The calls that one of the programs has made. -/
def callsOf (state : Interleaving ι α σ) (who : ι) : List Call :=
  (state.trace.filter (·.1 = who)).map Prod.snd

theorem mem_callsOf {call : Call} : call ∈ state.callsOf who ↔ (who, call) ∈ state.trace := by
  simp [callsOf]

/-- What every step keeps is kept by every schedule. -/
theorem run_invariant {P : Interleaving ι α σ → Prop} (holds : P state)
    (keeps : ∀ state turn, P state → P (state.step client turn)) (schedule : List ι) :
    P (state.run client schedule) := by
  induction schedule generalizing state with
  | nil => exact holds
  | cons turn rest ih => exact ih (keeps state turn holds)

theorem programs_step {program : Program α} (isLeft : state.programs turn = program) :
    (state.step client turn).programs turn = (program.step client state.world).rest := by
  rw [← isLeft]
  exact Function.update_self ..

theorem programs_step_of_ne (other : who ≠ turn) :
    (state.step client turn).programs who = state.programs who :=
  Function.update_of_ne other ..

/-- The one who takes a step has made the call of the step, if it makes one. -/
theorem callsOf_step_self : (state.step client turn).callsOf turn =
    state.callsOf turn ++ (state.next client turn).call?.toList := by
  cases made : (state.next client turn).call? <;> simp [callsOf, step, made]

/-- The others have made no call more. -/
theorem callsOf_step_of_ne (other : who ≠ turn) :
    (state.step client turn).callsOf who = state.callsOf who := by
  cases made : (state.next client turn).call? <;> simp [callsOf, step, made, other.symm]

/-! ### Nobody else -/

/-- One of the programs is run to its end, while nobody else takes a turn. -/
def finish (client : Client σ) (state : Interleaving ι α σ) (who : ι) : Interleaving ι α σ where
  trace := state.trace ++ ((state.programs who).calls client state.world).map (who, ·)
  programs :=
    Function.update state.programs who (.done ((state.programs who).run client state.world).1)
  world := ((state.programs who).run client state.world).2

theorem finish_step : (state.step client who).finish client who = state.finish client who := by
  apply Interleaving.ext
  case trace =>
    simp only [finish, programs_step rfl]
    simp only [step, next, List.append_assoc, ← List.map_append, Program.calls_step]
  case programs =>
    simp only [finish, programs_step rfl]
    simp only [step, next, Program.run_step, Function.update_idem]
  case world =>
    simp only [finish, programs_step rfl]
    exact congrArg Prod.snd (Program.run_step _ _)

theorem exists_run_of_step
    (later : ∃ turns, (state.step client who).run client (List.replicate turns who) =
      (state.step client who).finish client who) :
    ∃ turns, state.run client (List.replicate turns who) = state.finish client who := by
  obtain ⟨turns, ran⟩ := later
  exact ⟨turns + 1, ran.trans finish_step⟩

/-- A program that has all the turns runs to its end as it does by itself. -/
theorem exists_run_eq_finish (client : Client σ) (state : Interleaving ι α σ) (who : ι) :
    ∃ turns, state.run client (List.replicate turns who) = state.finish client who := by
  generalize isLeft : state.programs who = program
  induction program using Program.byActions generalizing state with
  | done value =>
    refine ⟨0, ?_⟩
    unfold finish
    rw [isLeft]
    refine Interleaving.ext (List.append_nil _).symm ?_ rfl
    exact (Function.update_eq_self_iff.2 isLeft.symm).symm
  | act action next ih =>
    exact exists_run_of_step (ih _ _ ((programs_step isLeft).trans Program.rest_step_andThen))

/-! ### The end -/

theorem run_append (first rest : List ι) :
    state.run client (first ++ rest) = (state.run client first).run client rest :=
  List.foldl_append

/-- A program that has ended stays so. -/
theorem programs_run_of_done {value : α} (isDone : state.programs who = .done value)
    (schedule : List ι) : (state.run client schedule).programs who = .done value := by
  refine run_invariant (P := fun state => state.programs who = .done value) isDone ?_ schedule
  intro state turn isDone
  by_cases same : who = turn
  · subst same
    rw [programs_step isDone]
    rfl
  · rw [programs_step_of_ne same, isDone]

/-- Programs can be brought to an end one after the other, whatever was done before. -/
theorem exists_run_done (client : Client σ) (state : Interleaving ι α σ) (everyone : List ι) :
    ∃ schedule, ∀ who ∈ everyone,
      ∃ value, (state.run client schedule).programs who = .done value := by
  induction everyone generalizing state with
  | nil => exact ⟨[], nofun⟩
  | cons first rest ih =>
    obtain ⟨turns, ran⟩ := exists_run_eq_finish client state first
    obtain ⟨schedule, others⟩ := ih (state.finish client first)
    refine ⟨List.replicate turns first ++ schedule, ?_⟩
    rw [run_append, ran, List.forall_mem_cons]
    exact ⟨⟨_, programs_run_of_done (Function.update_self ..) schedule⟩, others⟩

end Interleaving

end LinkedShapes.Resolution
