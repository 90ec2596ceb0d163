import LinkedShapes.Ldp.Resource

/-!
# Programs

What a resolution does, as data: it makes calls of a client, makes, reads and changes graphs that
several contexts share, draws new names, and goes on with the answers. A program does nothing until
it is run in a world, which holds the state of the resources, the shared graphs and the source of
names. The same program can so be run with different clients, or step by step beside another one.

## Main statements

* `run_bind`: running one program after another.
-/

namespace LinkedShapes.Resolution

open Rdf Ldp

/-- A reference to a shared graph. -/
abbrev GraphRef := Nat

/-- A program with a result. -/
inductive Program (α : Type) where
  /-- Ends with a result. -/
  | done (value : α)
  /-- Asks for the kind of a resource. -/
  | kind (url : String) (next : Except Failure ResourceKind → Program α)
  /-- Asks for the triples of a resource. -/
  | download (url : String) (next : Except Failure Graph → Program α)
  /-- Changes a resource. -/
  | write (url : String) (change : Write) (next : Except Failure Unit → Program α)
  /-- Makes a shared graph. -/
  | newGraph (graph : Graph) (next : GraphRef → Program α)
  /-- Reads a shared graph. -/
  | readGraph (ref : GraphRef) (next : Graph → Program α)
  /-- Changes a shared graph. -/
  | changeGraph (ref : GraphRef) (patch : Patch) (next : Program α)
  /-- Draws a name. -/
  | freshName (next : String → Program α)

namespace Program

variable {α β : Type}

/-- One program, then another that is given its result. -/
def bind (program : Program α) (f : α → Program β) : Program β :=
  match program with
  | .done value => f value
  | .kind url next => .kind url fun answer => (next answer).bind f
  | .download url next => .download url fun answer => (next answer).bind f
  | .write url change next => .write url change fun answer => (next answer).bind f
  | .newGraph graph next => .newGraph graph fun ref => (next ref).bind f
  | .readGraph ref next => .readGraph ref fun graph => (next graph).bind f
  | .changeGraph ref patch next => .changeGraph ref patch (next.bind f)
  | .freshName next => .freshName fun name => (next name).bind f

instance : Monad Program where
  pure := .done
  bind := bind

end Program

/-- A source of names: a sequence of numbers, of which some are used up. -/
structure Names where
  /-- The sequence. -/
  draw : Nat → UInt64
  /-- How many of it are used up. -/
  used : Nat := 0
  deriving Inhabited

namespace Names

/-- The name made of a number: its sixteen hexadecimal digits. -/
def nameOf (number : UInt64) : String :=
  let digits := Nat.toDigits 16 number.toNat
  String.ofList (List.replicate (16 - digits.length) '0' ++ digits)

/-- The next name, and the source after it. -/
def next (names : Names) : String × Names :=
  (nameOf (names.draw names.used), { names with used := names.used + 1 })

/-- The names that were drawn, in order. -/
def drawn (names : Names) : List String :=
  (List.range names.used).map fun n => nameOf (names.draw n)

end Names

/-- What programs run in; `σ` is the state of the resources. -/
structure World (σ : Type) where
  /-- The state of the resources. -/
  resources : σ
  /-- The shared graphs. -/
  graphs : Array Graph := #[]
  /-- The source of names. -/
  names : Names

namespace World

variable {σ : Type}

/-- A shared graph; a reference that was never made is to the empty graph. -/
def graph (world : World σ) (ref : GraphRef) : Graph :=
  world.graphs.getD ref Graph.empty

/-- The world with one graph more, and the reference to it. -/
def addGraph (world : World σ) (graph : Graph) : GraphRef × World σ :=
  (world.graphs.size, { world with graphs := world.graphs.push graph })

/-- The world with a shared graph patched. -/
def patchGraph (world : World σ) (ref : GraphRef) (patch : Patch) : World σ :=
  { world with graphs := world.graphs.setIfInBounds ref (patch.apply (world.graph ref)) }

end World

namespace Program

variable {σ α β : Type}

/-- Runs a program in a world with a client of its resources. -/
def run (client : Client σ) (program : Program α) (world : World σ) : α × World σ :=
  match program with
  | .done value => (value, world)
  | .kind url next =>
    let (answer, resources) := client.kind url world.resources
    (next answer).run client { world with resources }
  | .download url next =>
    let (answer, resources) := client.download url world.resources
    (next answer).run client { world with resources }
  | .write url change next =>
    let (answer, resources) := client.write url change world.resources
    (next answer).run client { world with resources }
  | .newGraph graph next =>
    let (ref, world) := world.addGraph graph
    (next ref).run client world
  | .readGraph ref next => (next (world.graph ref)).run client world
  | .changeGraph ref patch next => next.run client (world.patchGraph ref patch)
  | .freshName next =>
    let (name, names) := world.names.next
    (next name).run client { world with names }

/-- Running one program after another runs the second in the world that the first one left. -/
theorem run_bind (client : Client σ) (program : Program α) (f : α → Program β)
    (world : World σ) :
    (program.bind f).run client world =
      (f (program.run client world).1).run client (program.run client world).2 := by
  induction program generalizing world with
  | done value => rfl
  | kind url next ih => exact ih _ _
  | download url next ih => exact ih _ _
  | write url change next ih => exact ih _ _
  | newGraph graph next ih => exact ih _ _
  | readGraph ref next ih => exact ih _ _
  | changeGraph ref patch next ih => exact ih _
  | freshName next ih => exact ih _ _

end Program

end LinkedShapes.Resolution
