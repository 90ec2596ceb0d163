import LinkedShapes.Ldp.Patch
import LinkedShapes.Number.Decimal

/-!
# Resources

A resource is known by its URL. It is a document, which holds triples, or a container, which lists
the resources directly below it. A client asks for the kind and the triples of a resource and writes
to it; every such call may fail.
-/

namespace LinkedShapes.Ldp

open Rdf

/-- The kind of a resource. -/
inductive ResourceKind where
  /-- A set of triples. -/
  | document
  /-- A list of resources. -/
  | container
  deriving DecidableEq, Inhabited

/-- The name of a kind. -/
def ResourceKind.text : ResourceKind → String
  | .document => "document"
  | .container => "container"

/-- The URL of the document that an IRI is part of: the IRI without its fragment. -/
def documentUrl (iri : String) : String :=
  String.ofList (iri.toList.takeWhile (· ≠ '#'))

/-- Whether a URL is directly below a container: the container's URL is followed by one segment,
perhaps with a slash after it. -/
def isDirectChild (container url : String) : Bool :=
  match container.toList.isPrefixOf url.toList, url.toList.drop container.toList.length with
  | false, _ => false
  | true, below =>
    let segment := if below.getLast? = some '/' then below.dropLast else below
    !segment.isEmpty && !segment.contains '/'

/-- Why a call failed. -/
inductive Failure where
  /-- The server answered with a status that is not one of success. -/
  | status (url : String) (status : Nat) (body : String)
  /-- The connection failed. -/
  | connection
  /-- The answer of the server could not be read. -/
  | malformed (url : String)
  /-- The URL is not valid. -/
  | invalidUrl (url : String)
  deriving DecidableEq, Inhabited

namespace Failure

/-- The answer for a resource that does not exist. -/
def notFound (url : String) : Failure := .status url 404 "Not Found"

/-- Whether the server answered that the resource does not exist. -/
def isNotFound : Failure → Bool
  | .status _ code _ => code = 404
  | _ => false

/-- What is said of a failure; the details of connections and formats are not repeated. -/
def message : Failure → String
  | .status url code body =>
    "Error " ++ Number.natText code ++ " returned by " ++ url ++ " with payload:\n" ++ body
  | .connection => "The connection failed"
  | .malformed url => "Invalid RDF returned by " ++ url
  | .invalidUrl url => "Invalid resource URL " ++ url

end Failure

/-- A change of a resource. -/
inductive Write where
  /-- Changes some triples of a document. -/
  | patch (patch : Patch)
  /-- Creates a document or replaces it. -/
  | put (graph : Graph)
  /-- Removes the resource. -/
  | delete
  deriving DecidableEq, Inhabited

/-- What a client asks of a resource. -/
inductive Operation where
  /-- Asks for the kind. -/
  | kind
  /-- Asks for the triples. -/
  | download
  /-- Changes the resource. -/
  | write (write : Write)
  deriving DecidableEq, Inhabited

/-- A call of a client. -/
structure Call where
  /-- The URL of the resource. -/
  url : String
  /-- What is asked of it. -/
  operation : Operation
  deriving DecidableEq, Inhabited

/-- Whether the call asks for a change. -/
def Call.isWrite (call : Call) : Bool :=
  match call.operation with
  | .write _ => true
  | _ => false

/-- Access to resources; `σ` is the state that the calls work on. -/
structure Client (σ : Type) where
  /-- Asks for the kind of a resource. -/
  kind : String → σ → Except Failure ResourceKind × σ
  /-- Asks for the triples of a resource. -/
  download : String → σ → Except Failure Graph × σ
  /-- Changes a resource. -/
  write : String → Write → σ → Except Failure Unit × σ

namespace Client

variable {σ : Type}

/-- A client that refuses some calls with a failure and passes the others on. -/
def refusing (client : Client σ) (refusal? : Call → Option Failure) : Client σ where
  kind url state :=
    match refusal? ⟨url, .kind⟩ with
    | some failure => (.error failure, state)
    | none => client.kind url state
  download url state :=
    match refusal? ⟨url, .download⟩ with
    | some failure => (.error failure, state)
    | none => client.download url state
  write url change state :=
    match refusal? ⟨url, .write change⟩ with
    | some failure => (.error failure, state)
    | none => client.write url change state

end Client

end LinkedShapes.Ldp
