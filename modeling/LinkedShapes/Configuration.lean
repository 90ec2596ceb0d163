import LinkedShapes.Iri.Reference
import LinkedShapes.Json.Reader
import LinkedShapes.Ldp.Target

/-!
# Configurations

A configuration names the targets of classes and sets the limits of the connection. It is written in
JSON as an object of known members, each at most once, or as the list of their values in order; a
member that is left out has its default.

## Main statements

* `targetTable_default`: a configuration that says nothing gives the empty table of targets.
-/

namespace LinkedShapes

open Ldp (Targets)

/-- The settings of a program run. -/
structure Configuration where
  /-- The URLs of the resources that hold the instances of classes, sorted by class. -/
  targets : List (String × String) := []
  /-- The URL for all other classes, if there is one. -/
  defaultTarget : Option String := none
  /-- The seconds after which a request is given up, if there is a limit. -/
  timeout : Option Nat := none
  /-- The number of redirections that a request follows. -/
  redirectionLimit : Nat := 5
  deriving DecidableEq, Inhabited

/-- Why there is no configuration. -/
inductive ConfigurationError where
  /-- The file can not be read. -/
  | unreadable
  /-- The text is not that of a configuration. -/
  | malformed
  /-- A class or a URL is not an absolute IRI. -/
  | invalidIri (iri : String)
  deriving DecidableEq, Inhabited

namespace Configuration

/-! ### Reading -/

/-- The values of the members of a record, in the order of their names; none where a member is left
out. A record is an object without other members and without repetition, or a list that is not
longer than the names. -/
def record? (names : List String) : Json → Option (List (Option Json))
  | .object members =>
    let written := members.map Prod.fst
    if written.all (· ∈ names) && decide written.Nodup then
      some (names.map (Json.find? members))
    else none
  | .array items =>
    if items.length ≤ names.length then
      some (items.map some ++ List.replicate (names.length - items.length) none)
    else none
  | _ => none

/-- The members of an object of texts, sorted by name; the last one of each name counts. -/
def textTable? (value : Json) : Option (List (String × String)) := do
  let members ← value.object?
  let texts ← members.mapM fun (_, value) => value.string?
  (Json.canonicalMembers ((members.map Prod.fst).zip (texts.map .string))).mapM
    fun (name, value) => return (name, ← value.string?)

/-- The natural number of 64 bits that a value is. -/
def natural? : Json → Option Nat
  | .int n => if 0 ≤ n ∧ n ≤ Number.maxNat64 then some n.toNat else none
  | _ => none

/-- A value that may be left out or null. -/
def optional? {α : Type} (read : Json → Option α) (value : Option Json) : Option (Option α) :=
  match value with
  | none => some none
  | some .null => some none
  | some v => (read v).map some

/-- A value that may be left out. -/
def withDefault? {α : Type} (read : Json → Option α) (default : α) (value : Option Json) :
    Option α :=
  match value with
  | none => some default
  | some v => read v

/-- The timeout and the redirection limit. -/
def connection? (value : Json) : Option (Option Nat × Nat) := do
  match ← record? ["timeout_secs", "redirection_limit"] value with
  | [timeout, limit] =>
    return (← optional? natural? timeout,
      ← withDefault? natural? ({} : Configuration).redirectionLimit limit)
  | _ => none

/-- The configuration that a value stands for. -/
def ofJson? (value : Json) : Option Configuration := do
  match ← record? ["targets", "default_target", "http"] value with
  | [targets, defaultTarget, connection] =>
    let targets ← withDefault? textTable? [] targets
    let defaultTarget ← optional? Json.string? defaultTarget
    let (timeout, limit) ←
      withDefault? connection? (none, ({} : Configuration).redirectionLimit) connection
    return { targets, defaultTarget, timeout, redirectionLimit := limit }
  | _ => none

/-- The configuration written by a text. -/
def read (text : String) : Except ConfigurationError Configuration :=
  match (Json.read? text).bind ofJson? with
  | some configuration => .ok configuration
  | none => .error .malformed

/-! ### Targets -/

/-- The table of the targets. Every class and URL must be an absolute IRI: of several that are not,
the first one counts, in the order of the classes and the class before its URL. -/
def targetTable (configuration : Configuration) : Except ConfigurationError Targets :=
  let named := configuration.targets.flatMap fun (cls, url) => [cls, url]
  match (named ++ configuration.defaultTarget.toList).find? (!Iri.isAbsolute ·) with
  | some invalid => .error (.invalidIri invalid)
  | none =>
    .ok { byClass := configuration.targets, fallback := configuration.defaultTarget }

theorem targetTable_default : targetTable {} = .ok Targets.empty := rfl

end Configuration

end LinkedShapes
