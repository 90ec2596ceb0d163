import LinkedShapes.GraphQL.Validation.Selection

/-!
# Rules for fragments

A fragment is used by an operation, at once or through other fragments, and not within itself.
-/

namespace LinkedShapes.GraphQL

/-- The sites of the operations and fragments of a document. -/
structure Scopes where
  /-- The operations. -/
  operations : List (Operation × Scope)
  /-- The fragments. -/
  fragments : List (Fragment × Scope)

/-- The sites of a document. -/
def TypeSystem.scopes (system : TypeSystem) (document : Document) : Scopes :=
  { operations := document.operations.map fun operation =>
      (operation, system.operationScope operation)
    fragments := document.fragments.map fun fragment =>
      (fragment, system.fragmentScope fragment) }

namespace Scopes

/-- The fragments that a fragment uses. -/
def spreadsOf (scopes : Scopes) (name : String) : List String :=
  match scopes.fragments.find? (·.1.name = name) with
  | some (_, scope) => scope.spreads
  | none => []

/-- Some names of fragments, and those that these use at once. -/
def andUsed (scopes : Scopes) (names : List String) : List String :=
  names ++ (names.flatMap scopes.spreadsOf).eraseDups.filter (· ∉ names)

/-- The names of the fragments that a scope uses, at once or through others. A step through each
fragment reaches them all. -/
def reachedFrom (scopes : Scopes) (scope : Scope) : List String :=
  scopes.fragments.foldl (fun names _ => scopes.andUsed names) scope.spreads.eraseDups

/-- A scope and those of the fragments that it uses. -/
def reachable (scopes : Scopes) (scope : Scope) : List Scope :=
  let names := scopes.reachedFrom scope
  scope :: (scopes.fragments.filter fun fragment => fragment.1.name ∈ names).map Prod.snd

/-- The fragments that no operation uses. -/
def unused (scopes : Scopes) : List Violation :=
  let used := scopes.operations.flatMap fun operation => scopes.reachedFrom operation.2
  (scopes.fragments.filter fun fragment => fragment.1.name ∉ used).map fun fragment =>
    .unusedFragment fragment.1.name

/-- Follows the fragments that a fragment uses, depth first: `path` leads to it, and `state` holds the
fragments that were followed and the cycles that were found. -/
def followCycles (scopes : Scopes) : Nat → List String → String →
    List String × List Violation → List String × List Violation
  | 0, _, _, state => state
  | fuel + 1, path, name, (followed, found) =>
    let path := name :: path
    (scopes.spreadsOf name).foldl (fun state next =>
      if next ∈ path then (state.1, state.2 ++ [.cyclicFragment next])
      else if next ∈ state.1 then state
      else followCycles scopes fuel path next state) (name :: followed, found)

/-- The fragments that are used within themselves. A path without repetition is no longer than there
are names. -/
def cycles (scopes : Scopes) : List Violation :=
  let names := scopes.fragments.map fun fragment => fragment.1.name
  let bound := names.length + (names.flatMap scopes.spreadsOf).length + 1
  (names.foldl (fun state name =>
    if name ∈ state.1 then state else scopes.followCycles bound [] name state)
    (([], []) : List String × List Violation)).2

end Scopes

end LinkedShapes.GraphQL
