import LinkedShapes.Proofs.Gathering
import LinkedShapes.Proofs.StoreOrder

/-!
# Patches that are accepted and refused

A patch that is accepted changes one document and nothing else. A patch that is refused should change
nothing at all, and in a document that is there it does not. A document that is missing, though, is
created before the triples to delete are looked for, and stays behind as an empty document: where there
was no resource before, there is one afterwards.

A store keeps one document for each URL, in the order of the URLs. Every store that is built up through
its operations does, which is why a document that is put back as it was read leaves the list of documents
as it was.

## Main statements

* `Built.sorted`: every store keeps its documents in the order of their URLs.
* `putDocument_of_found`: a document that is put as it is found changes nothing.
* `readsAs_put_empty_iff`: an empty document goes unnoticed only where there is a container.
* `patch_outcome`: when a patch is accepted, and what it leaves behind in either case.
-/

namespace LinkedShapes.Ldp.Store

open Rdf

variable {store after : Store} {url other : String} {graph : Graph} {documents : List (String × Graph)}

/-! ### Documents in order -/

/-- Documents are in strictly increasing order of their URLs. -/
def InOrder (documents : List (String × Graph)) : Prop :=
  documents.Pairwise fun entry entry' => entry.1 < entry'.1

theorem inOrder_putDocument (url : String) (graph : Graph) (inOrder : InOrder documents) :
    InOrder (putDocument url graph documents) := by
  induction documents with
  | nil => simp [InOrder, putDocument]
  | cons head rest ih =>
    obtain ⟨u, g⟩ := head
    obtain ⟨before, restInOrder⟩ := List.pairwise_cons.1 inOrder
    unfold putDocument
    by_cases same : u = url
    · rw [if_pos same]
      exact List.pairwise_cons.2 ⟨same ▸ before, restInOrder⟩
    · rw [if_neg same]
      by_cases first : url < u
      · rw [if_pos first]
        refine List.pairwise_cons.2 ⟨?_, inOrder⟩
        rintro entry (_ | ⟨_, mem⟩)
        · exact first
        · exact String.lt_trans first (before entry mem)
      · rw [if_neg first]
        refine List.pairwise_cons.2 ⟨?_, ih restInOrder⟩
        intro entry mem
        -- The new entry stands behind the head, since its URL is neither that of the head nor less.
        obtain later | mem := mem_map_putDocument.1 (List.mem_map_of_mem mem)
        · rw [later]
          by_contra notBefore
          exact same (String.le_antisymm (String.not_lt.1 first) (String.not_lt.1 notBefore))
        · obtain ⟨entry', mem', url_eq⟩ := List.mem_map.1 mem
          exact url_eq ▸ before entry' mem'

/-- A document that is put as it is found changes nothing. -/
theorem putDocument_of_found (inOrder : InOrder documents)
    (found : documents.find? (·.1 = url) = some (url, graph)) :
    putDocument url graph documents = documents := by
  induction documents with
  | nil => simp at found
  | cons head rest ih =>
    obtain ⟨u, g⟩ := head
    obtain ⟨before, restInOrder⟩ := List.pairwise_cons.1 inOrder
    unfold putDocument
    by_cases same : u = url
    · simp only [List.find?_cons, same, decide_true, Option.some.injEq, Prod.mk.injEq] at found
      simp [same, found.2]
    · have later : rest.find? (·.1 = url) = some (url, graph) := by
        simpa [List.find?_cons, same] using found
      have notBefore : ¬ url < u :=
        String.lt_asymm (before _ (List.mem_of_find?_eq_some later))
      rw [if_neg same, if_neg notBefore, ih restInOrder later]

/-- The stores that come about through the operations of a store. -/
inductive Built : Store → Prop
  /-- A store starts empty. -/
  | empty : Built Store.empty
  /-- A container is added. -/
  | addContainer {store : Store} (url : String) (built : Built store) : Built (store.addContainer url)
  /-- A document is put beside the client. -/
  | put {store : Store} (url : String) (graph : Graph) (built : Built store) :
    Built (store.put url graph)
  /-- The triples of a text are added to a document. -/
  | load {store after : Store} {url text : String} (built : Built store)
    (loaded : store.load url text = .ok after) : Built after
  /-- The notes of the calls are cleared. -/
  | clearCalls {store : Store} (built : Built store) : Built store.clearCalls
  /-- The client asks for a kind. -/
  | kind {store : Store} (url : String) (built : Built store) : Built (client.kind url store).2
  /-- The client asks for the triples of a resource. -/
  | download {store : Store} (url : String) (built : Built store) :
    Built (client.download url store).2
  /-- The client asks for a change. -/
  | write {store : Store} (url : String) (change : Write) (built : Built store) :
    Built (client.write url change store).2

theorem inOrder_load {text : String} (inOrder : InOrder store.documents)
    (loaded : store.load url text = .ok after) : InOrder after.documents := by
  unfold load at loaded
  split at loaded
  · cases loaded
  · split at loaded
    · cases loaded
    · cases loaded
      exact inOrder_putDocument _ _ inOrder

/-- No change takes the documents out of their order, whether it is made or refused. -/
theorem inOrder_change (change : Write) (inOrder : InOrder store.documents) :
    InOrder (store.change url change).2.documents := by
  cases change with
  | patch p =>
    rw [Store.change]
    obtain ⟨-, made⟩ | ⟨_, -, -, refused⟩ := patch_cases store url p
    · rw [made]
      exact inOrder_putDocument _ _ inOrder
    · rw [refused]
      exact inOrder_putDocument _ _ inOrder
  | put graph => exact inOrder_putDocument _ _ inOrder
  | delete =>
    rw [Store.change, remove]
    split
    · exact List.Pairwise.filter _ inOrder
    · exact inOrder

/-- Every store keeps its documents in the order of their URLs. -/
theorem Built.sorted (built : store.Built) : InOrder store.documents := by
  induction built with
  | empty => exact List.Pairwise.nil
  | addContainer _ _ ih => exact ih
  | put url graph _ ih => exact inOrder_putDocument url graph ih
  | load _ loaded ih => exact inOrder_load ih loaded
  | clearCalls _ ih => exact ih
  | kind _ _ ih => exact ih
  | download _ _ ih => exact ih
  | write url change _ ih => exact inOrder_change change ih

/-- So a document that is put as it is found leaves the store as it was. -/
theorem put_of_found (inOrder : InOrder store.documents)
    (found : store.document? url = some graph) : store.put url graph = store := by
  obtain ⟨⟨u, g⟩, entry, rfl⟩ := Option.map_eq_some_iff.1 found
  obtain rfl : u = url := by simpa using List.find?_some entry
  rw [put, putDocument_of_found inOrder entry]

/-! ### What is read afterwards -/

/-- After a call, one document holds other triples, and nothing else has changed but the note of the
call. -/
structure WroteOnly (before after : Store) (call : Call) (holds : Triple → Prop) : Prop where
  /-- The document has the triples. -/
  document : ∃ graph, after.document? call.url = some graph ∧ ∀ t, t ∈ graph ↔ holds t
  /-- The other documents are as they were. -/
  otherDocuments : ∀ other, other ≠ call.url → after.document? other = before.document? other
  /-- The containers are as they were. -/
  containers : after.containers = before.containers
  /-- The call is noted. -/
  calls : after.calls = before.calls ++ [call]
  /-- No label for a blank node was used up. -/
  nextLabel : after.nextLabel = before.nextLabel

theorem wroteOnly_put {holds : Triple → Prop} (change : Write)
    (written : ∀ t, t ∈ graph ↔ holds t) :
    store.WroteOnly ((store.note url (.write change)).put url graph) ⟨url, .write change⟩ holds where
  document := ⟨graph, by simp, written⟩
  otherDocuments other different := by
    rw [document?_put, if_neg different.symm]
    rfl
  containers := rfl
  calls := rfl
  nextLabel := rfl

/-- Two stores that no call for a kind or for triples tells apart. A container that lists several URLs
that are not valid can be read in neither; the failure may then name another of them. -/
structure ReadsAs (before after : Store) : Prop where
  /-- Each resource has the same kind, or is missing in both. -/
  kind : ∀ url, after.kindOf url = before.kindOf url
  /-- The same resources can be read. -/
  readable : ∀ url, (∃ graph, after.graphOf url = .ok graph) ↔ ∃ graph, before.graphOf url = .ok graph
  /-- They have the same triples. -/
  triples : ∀ url graph graph', before.graphOf url = .ok graph → after.graphOf url = .ok graph' →
    graph.SameTriples graph'

/-- The note of a call is not read. -/
theorem readsAs_note (store : Store) (url : String) (operation : Operation) :
    store.ReadsAs (store.note url operation) where
  kind _ := rfl
  readable _ := Iff.rfl
  triples url graph graph' read read' := by
    have same : graph = graph' := Except.ok.inj (read.symm.trans read')
    exact fun t => by rw [same]

theorem readsAs_of_note {operation : Operation} :
    (store.note other operation).ReadsAs after ↔ store.ReadsAs after :=
  ⟨fun same => ⟨same.kind, same.readable, same.triples⟩,
    fun same => ⟨same.kind, same.readable, same.triples⟩⟩

/-- A document at the URL of a container adds nothing to what a container lists. -/
theorem mem_children_put {container : String} (listed : store.isContainer url = true) :
    other ∈ (store.put url graph).children container ↔ other ∈ store.children container := by
  have there : url ∈ store.containers := by simpa [isContainer] using listed
  have urls : other ∈ (store.put url graph).documentUrls ↔ other = url ∨ other ∈ store.documentUrls :=
    mem_map_putDocument
  rw [mem_children, mem_children, urls]
  refine and_congr_left fun _ => ?_
  constructor
  · rintro ((rfl | document) | container)
    · exact .inr there
    · exact .inl document
    · exact .inr container
  · rintro (document | container)
    · exact .inl (.inr document)
    · exact .inr container

/-- Nor does it change the triples of a container, if it is empty as the missing one was. -/
theorem mem_containerGraph_put_empty {container : String} {listing listing' : Graph}
    (listed : store.isContainer url = true) (missing : store.document? url = none)
    (read : store.containerGraph container = .ok listing)
    (read' : (store.put url Graph.empty).containerGraph container = .ok listing') :
    listing.SameTriples listing' := by
  intro t
  have document : (store.put url Graph.empty).documentOrEmpty container =
      store.documentOrEmpty container := by
    rw [documentOrEmpty_put]
    split
    · rename_i same
      rw [← same, documentOrEmpty, missing, Option.getD_none]
    · rfl
  simp only [mem_containerGraph read, mem_containerGraph read', document, mem_children_put listed]

/-- An empty document where there was none goes unnoticed only if there is a container. -/
theorem readsAs_put_empty_iff (missing : store.document? url = none) :
    store.ReadsAs (store.put url Graph.empty) ↔ store.isContainer url = true := by
  constructor
  · intro same
    by_contra noContainer
    have absent : store.kindOf url = .error (.notFound url) := by
      simp [kindOf, noContainer, missing]
    have there : (store.put url Graph.empty).kindOf url = .ok .document :=
      kindOf_eq_document_iff.2 ⟨Bool.not_eq_true _ |>.mp noContainer, by simp⟩
    rw [same.kind, absent] at there
    cases there
  · intro listed
    have containers (other : String) :
        (store.put url Graph.empty).isContainer other = store.isContainer other := rfl
    have documents (other : String) (noContainer : ¬ store.isContainer other = true) :
        (store.put url Graph.empty).document? other = store.document? other := by
      rw [document?_put, if_neg]
      rintro rfl
      exact noContainer listed
    constructor
    case kind =>
      intro other
      rw [kindOf, kindOf, containers]
      split
      · rfl
      · rename_i noContainer
        rw [documents other noContainer]
    case readable =>
      intro other
      rw [graphOf, graphOf, containers]
      split
      · simp only [exists_containerGraph_iff, List.mem_cons, mem_children_put listed]
      · rename_i noContainer
        rw [documents other noContainer]
    case triples =>
      intro other graph graph' read read'
      rw [graphOf] at read read'
      rw [containers] at read'
      split at read
      · rename_i container
        rw [if_pos container] at read'
        exact mem_containerGraph_put_empty listed missing read read'
      · rename_i noContainer
        rw [if_neg noContainer, documents other noContainer, read] at read'
        cases read'
        exact fun _ => Iff.rfl

/-! ### Patches -/

/-- What a patch leaves behind when it is refused, at a URL with a document and at one without. -/
theorem refused_outcome (inOrder : InOrder store.documents) (change : Write) :
    let noted := store.note url (.write change)
    let left := noted.put url (store.documentOrEmpty url)
    ((store.document? url).isSome = true → left = noted) ∧
    (store.document? url = none → store.WroteOnly left ⟨url, .write change⟩ fun _ => False) ∧
    (store.ReadsAs left ↔ (store.document? url).isSome = true ∨ store.isContainer url = true) := by
  intro noted left
  cases found : store.document? url with
  | some graph =>
    have unchanged : left = noted :=
      put_of_found inOrder (found.trans (by rw [documentOrEmpty, found, Option.getD_some]))
    refine ⟨fun _ => unchanged, fun absent => absurd absent (Option.some_ne_none graph), ?_⟩
    exact iff_of_true (unchanged ▸ readsAs_note store url _) (.inl rfl)
  | none =>
    have emptied : left = noted.put url Graph.empty := by
      simp only [left, documentOrEmpty, found, Option.getD_none]
    refine ⟨fun there => absurd there Bool.false_ne_true, fun _ => ?_, ?_⟩
    · rw [emptied]
      exact wroteOnly_put change fun t => by simp
    · have unnoticed : noted.ReadsAs (noted.put url Graph.empty) ↔ store.isContainer url = true :=
        readsAs_put_empty_iff found
      rw [emptied, ← readsAs_of_note, unnoticed]
      simp

/-- A patch is accepted if the document has every triple that it deletes, where a missing document counts
as empty. It then changes the document, and nothing else. A patch that is refused names a triple that is
missing. It changes nothing if there is a document, and leaves an empty document behind if there is none,
which can be noticed unless a container has the URL. -/
theorem patch_outcome {answer : Except Failure Unit} (built : store.Built) (url : String) (p : Patch)
    (made : client.write url (.patch p) store = (answer, after)) :
    (answer = .ok () ↔ ∀ t ∈ p.deletes, t ∈ store.documentOrEmpty url) ∧
    (answer = .ok () → store.WroteOnly after ⟨url, .write (.patch p)⟩ fun t =>
      (t ∈ store.documentOrEmpty url ∧ t ∉ p.deletes) ∨ t ∈ p.inserts) ∧
    (∀ failure, answer = .error failure →
      (∃ missing ∈ p.deletes, missing ∉ store.documentOrEmpty url ∧ failure = conflict url missing) ∧
      ((store.document? url).isSome = true → after = store.note url (.write (.patch p))) ∧
      (store.document? url = none →
        store.WroteOnly after ⟨url, .write (.patch p)⟩ fun _ => False) ∧
      (store.ReadsAs after ↔ (store.document? url).isSome = true ∨ store.isContainer url = true)) := by
  let noted := store.note url (.write (.patch p))
  obtain ⟨present, accepted⟩ | ⟨missing, deleted, absent, refused⟩ := patch_cases noted url p
  · obtain ⟨rfl, rfl⟩ := Prod.mk.inj (made.symm.trans accepted)
    refine ⟨iff_of_true rfl present, fun _ => ?_, fun _ refused => by cases refused⟩
    exact wroteOnly_put _ fun t => Graph.mem_patch
  · obtain ⟨rfl, rfl⟩ := Prod.mk.inj (made.symm.trans refused)
    have notAccepted : (Except.error (conflict url missing) : Except Failure Unit) ≠ .ok () := by
      rintro ⟨⟩
    refine ⟨iff_of_false notAccepted fun present => absent (present missing deleted),
      fun accepted => absurd accepted notAccepted, ?_⟩
    rintro failure ⟨⟩
    exact ⟨⟨missing, deleted, absent, rfl⟩, refused_outcome built.sorted (.patch p)⟩

/-- A document of a container. -/
def notes : String := "http://example.org/contacts/notes"

/-- The class that a document states of itself. -/
def typed : Triple := Graph.typing (.iri notes) "http://schema.org/CreativeWork"

/-- The patch that takes the class back. -/
def untyping : Patch := { deletes := [typed] }

/-- A container that lists nothing. -/
def bare : Store := Store.empty.addContainer "http://example.org/contacts/"

/-- With the document, the patch is accepted once. A second time it is refused, and nothing changes. -/
theorem patch_outcome_twice :
    ∃ once twice : Store,
      client.write notes (.patch untyping) (bare.put notes (Graph.ofList [typed])) = (.ok (), once) ∧
      (bare.put notes (Graph.ofList [typed])).WroteOnly once ⟨notes, .write (.patch untyping)⟩
        (fun t => (t ∈ Graph.ofList [typed] ∧ t ∉ untyping.deletes) ∨ t ∈ untyping.inserts) ∧
      client.write notes (.patch untyping) once = (.error (conflict notes typed), twice) ∧
      twice = once.note notes (.write (.patch untyping)) := by
  have built : (bare.put notes (Graph.ofList [typed])).Built := (Built.empty.addContainer _).put _ _
  let once := (client.write notes (.patch untyping) (bare.put notes (Graph.ofList [typed]))).2
  have accepted : client.write notes (.patch untyping) (bare.put notes (Graph.ofList [typed])) =
      (.ok (), once) := rfl
  have refused : client.write notes (.patch untyping) once =
      (.error (conflict notes typed), (client.write notes (.patch untyping) once).2) := rfl
  obtain ⟨-, written, -⟩ := patch_outcome built notes untyping accepted
  obtain ⟨-, -, unchanged⟩ := patch_outcome (built.write notes (.patch untyping)) notes untyping refused
  exact ⟨once, _, accepted, written rfl, refused, (unchanged _ rfl).2.1 rfl⟩

/-- Without the document, the patch is refused, and there is a document where there was none. -/
theorem refused_patch_creates :
    bare.kindOf notes = .error (.notFound notes) ∧
    (client.write notes (.patch untyping) bare).1 = .error (conflict notes typed) ∧
    (client.write notes (.patch untyping) bare).2.kindOf notes = .ok .document ∧
    (client.write notes (.patch untyping) bare).2.documentUrls = [notes] := by
  decide

end LinkedShapes.Ldp.Store
