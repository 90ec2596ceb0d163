import LinkedShapes.Ldp.Resource
import LinkedShapes.Rdf.Turtle.Document

/-!
# Resources kept in memory

A store keeps documents and containers and notes each call. A container lists the documents and
containers directly below it beside the triples of its own document, if it has one. A patch is
refused as a whole if it deletes a triple that the document does not have; a document that does not
exist counts as empty.

## Main statements

* `find?_putDocument`: what a document holds after another one was put.
-/

namespace LinkedShapes.Ldp

open Rdf

/-- Documents and containers, and the calls that were made. -/
structure Store where
  /-- The documents by URL, sorted by URL. -/
  documents : List (String × Graph) := []
  /-- The URLs of the containers, sorted. -/
  containers : List String := []
  /-- The calls in the order in which they were made. -/
  calls : List Call := []
  /-- The number of the next label for a blank node that a document does not label. -/
  nextLabel : Nat := 0
  deriving Inhabited

namespace Store

/-- The store without documents, containers and calls. -/
def empty : Store := {}

/-- The document at a URL. -/
def document? (store : Store) (url : String) : Option Graph :=
  (store.documents.find? (·.1 = url)).map Prod.snd

/-- The document at a URL, empty if there is none. -/
def documentOrEmpty (store : Store) (url : String) : Graph :=
  (store.document? url).getD Graph.empty

/-- Whether there is a container at a URL. -/
def isContainer (store : Store) (url : String) : Bool := decide (url ∈ store.containers)

/-- The documents with one put at a URL, in the order of the URLs. -/
def putDocument (url : String) (graph : Graph) : List (String × Graph) → List (String × Graph)
  | [] => [(url, graph)]
  | (u, g) :: rest =>
    if u = url then (url, graph) :: rest
    else if url < u then (url, graph) :: (u, g) :: rest
    else (u, g) :: putDocument url graph rest

theorem find?_putDocument (url other : String) (graph : Graph)
    (documents : List (String × Graph)) :
    ((putDocument url graph documents).find? (·.1 = other)).map Prod.snd =
      if url = other then some graph
      else (documents.find? (·.1 = other)).map Prod.snd := by
  induction documents with
  | nil => by_cases h : url = other <;> simp [putDocument, h]
  | cons head rest ih =>
    obtain ⟨u, g⟩ := head
    unfold putDocument
    by_cases h : u = url
    · subst h
      by_cases ho : u = other <;> simp [ho]
    · by_cases hl : url < u
      · simp only [h, hl, if_true, if_false]
        by_cases ho : url = other <;> simp [ho]
      · simp only [h, hl, if_false]
        by_cases ho : u = other
        · have : url ≠ other := fun e => h (ho.trans e.symm)
          simp [ho, this]
        · simpa [List.find?_cons, ho] using ih

/-- The store with a document put at a URL. -/
def put (store : Store) (url : String) (graph : Graph) : Store :=
  { store with documents := putDocument url graph store.documents }

/-- The store with triples added to the document at a URL. -/
def addTriples (store : Store) (url : String) (triples : List Triple) : Store :=
  store.put url ((store.documentOrEmpty url).addAll triples)

/-- The store with the triples of a Turtle text added to the document at a URL, which is the base
of the text. -/
def load (store : Store) (url text : String) : Except Failure Store :=
  if !Iri.isAbsolute url then .error (.invalidUrl url)
  else
    match Turtle.readDocument? false (some url) store.nextLabel text with
    | none => .error (.malformed url)
    | some (triples, next) => .ok { store.addTriples url triples with nextLabel := next }

/-- The URLs with one added, in order and without repetition. -/
def insertUrl (url : String) : List String → List String
  | [] => [url]
  | u :: rest =>
    if u = url then u :: rest
    else if url < u then url :: u :: rest
    else u :: insertUrl url rest

/-- The store with a container at a URL. -/
def addContainer (store : Store) (url : String) : Store :=
  { store with containers := insertUrl url store.containers }

/-- The URLs of the documents. -/
def documentUrls (store : Store) : List String := store.documents.map Prod.fst

/-- The store without the note of any call. -/
def clearCalls (store : Store) : Store := { store with calls := [] }

/-- The calls that changed the store. -/
def writes (store : Store) : List Call := store.calls.filter Call.isWrite

/-- The URLs of the resources directly below a container. -/
def children (store : Store) (container : String) : List String :=
  (store.documentUrls ++ store.containers).filter (isDirectChild container)

/-- The triple that lists a resource in a container. -/
def containment (container child : String) : Triple :=
  ⟨.iri container, Ldp.contains, .iri child⟩

/-- The triples of a container; every URL in them must be valid. -/
def containerGraph (store : Store) (url : String) : Except Failure Graph :=
  match (url :: store.children url).find? (!Iri.isAbsolute ·) with
  | some invalid => .error (.invalidUrl invalid)
  | none =>
    .ok ((store.documentOrEmpty url).addAll
      (Graph.typing (.iri url) Ldp.container :: Graph.typing (.iri url) Ldp.basicContainer ::
        (store.children url).map (containment url)))

/-- The store with a call noted. -/
def note (store : Store) (url : String) (operation : Operation) : Store :=
  { store with calls := store.calls ++ [⟨url, operation⟩] }

/-- The kind of the resource at a URL; a container comes before a document. -/
def kindOf (store : Store) (url : String) : Except Failure ResourceKind :=
  if store.isContainer url then .ok .container
  else if (store.document? url).isSome then .ok .document
  else .error (.notFound url)

/-- The triples of the resource at a URL. -/
def graphOf (store : Store) (url : String) : Except Failure Graph :=
  if store.isContainer url then store.containerGraph url
  else
    match store.document? url with
    | some graph => .ok graph
    | none => .error (.notFound url)

/-- The failure of a patch that deletes a triple that is not there. -/
def conflict (url : String) (missing : Triple) : Failure :=
  .status url 409 ("The document does not contain " ++ missing.text ++ " .")

/-- Applies a patch to a document. A document that does not exist is created, empty if the patch is
refused. -/
def patch (store : Store) (url : String) (patch : Patch) : Except Failure Unit × Store :=
  let document := store.documentOrEmpty url
  match patch.deletes.find? (!document.contains ·) with
  | some missing => (.error (conflict url missing), store.put url document)
  | none => (.ok (), store.put url (patch.apply document))

/-- Removes the document and the container at a URL. -/
def remove (store : Store) (url : String) : Except Failure Unit × Store :=
  if (store.document? url).isSome || store.isContainer url then
    (.ok (), { store with
      documents := store.documents.filter (·.1 ≠ url)
      containers := store.containers.filter (· ≠ url) })
  else (.error (.notFound url), store)

/-- Changes the resource at a URL. -/
def change (store : Store) (url : String) : Write → Except Failure Unit × Store
  | .patch p => store.patch url p
  | .put graph => (.ok (), store.put url graph)
  | .delete => store.remove url

/-- The client of a store; every call is noted, those that fail too. -/
def client : Client Store where
  kind url store := (store.kindOf url, store.note url .kind)
  download url store := (store.graphOf url, store.note url .download)
  write url write store := (store.note url (.write write)).change url write

end Store

end LinkedShapes.Ldp
