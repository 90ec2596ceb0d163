import LinkedShapes.Ldp.Store
import LinkedShapes.Proofs.Failure

/-!
# What a store holds

What can be read from a store after a call, stated document by document: a call that is noted changes
no document, a document that is put is read back, and a patch is made as a whole or not at all.

## Main statements

* `patch_cases`: a patch is made as a whole or refused.
* `patchedAt_of_accepted`: what a patch that is accepted leaves behind.
* `client_steady`: a call that is refused leaves what the documents hold and the containers.
* `Client.Steady.refusing`: refusing more calls keeps a client steady.
* `mem_containerGraph`: the triples that a container is read with.
* `exists_containerGraph_iff`: when a container can be read.
-/

namespace LinkedShapes.Ldp

open Rdf

/-- A client stays steady when some of its calls are refused before they are made. -/
theorem Client.Steady.refusing {σ γ : Type} {client : Client σ} {view : σ → γ}
    (steady : client.Steady view) (refusal? : Call → Option Failure) :
    (client.refusing refusal?).Steady view where
  kind url state := by
    unfold Client.refusing
    dsimp only
    cases refusal? ⟨url, .kind⟩ with
    | some failure => rfl
    | none => exact steady.kind url state
  download url state := by
    unfold Client.refusing
    dsimp only
    cases refusal? ⟨url, .download⟩ with
    | some failure => rfl
    | none => exact steady.download url state
  refused url change state failure := by
    unfold Client.refusing
    dsimp only
    cases refusal? ⟨url, .write change⟩ with
    | some refusal => exact fun _ => rfl
    | none => exact steady.refused url change state failure

namespace Store

variable {store : Store} {url other : String} {graph : Graph} {p : Patch}

@[simp]
theorem document?_put : (store.put url graph).document? other =
    if url = other then some graph else store.document? other :=
  find?_putDocument url other graph store.documents

@[simp]
theorem documentOrEmpty_put : (store.put url graph).documentOrEmpty other =
    if url = other then graph else store.documentOrEmpty other := by
  unfold documentOrEmpty
  rw [document?_put]
  split <;> rfl

/-- A document that is written as it reads changes nothing that can be read. -/
theorem documentOrEmpty_put_same :
    (store.put url (store.documentOrEmpty url)).documentOrEmpty other =
      store.documentOrEmpty other := by
  rw [documentOrEmpty_put]
  split
  · rename_i same
    rw [same]
  · rfl

/-- A patch is made as a whole, if the document has all the triples that it deletes, or refused for
one that is missing. -/
theorem patch_cases (store : Store) (url : String) (p : Patch) :
    ((∀ t ∈ p.deletes, t ∈ store.documentOrEmpty url) ∧
      store.patch url p = (.ok (), store.put url (p.apply (store.documentOrEmpty url)))) ∨
    (∃ missing ∈ p.deletes, missing ∉ store.documentOrEmpty url ∧
      store.patch url p =
        (.error (conflict url missing), store.put url (store.documentOrEmpty url))) := by
  cases found : p.deletes.find? (!(store.documentOrEmpty url).contains ·) with
  | none =>
    left
    constructor
    · intro t ht
      simpa using List.find?_eq_none.1 found t ht
    · simp only [patch, found]
  | some missing =>
    right
    refine ⟨missing, List.mem_of_find?_eq_some found, ?_, ?_⟩
    · have unfound := List.find?_some found
      simp only [Bool.not_eq_true', ← Bool.not_eq_true, Graph.contains_eq_true_iff] at unfound
      exact unfound
    · simp only [patch, found]

theorem patch_of_deletes (present : ∀ t ∈ p.deletes, t ∈ store.documentOrEmpty url) :
    store.patch url p = (.ok (), store.put url (p.apply (store.documentOrEmpty url))) := by
  obtain ⟨-, accepted⟩ | ⟨missing, deleted, absent, -⟩ := patch_cases store url p
  · exact accepted
  · exact absurd (present missing deleted) absent

theorem patch_eq_ok_iff :
    (store.patch url p).1 = .ok () ↔ ∀ t ∈ p.deletes, t ∈ store.documentOrEmpty url := by
  constructor
  · intro accepted
    obtain ⟨present, -⟩ | ⟨missing, -, -, refused⟩ := patch_cases store url p
    · exact present
    · rw [refused] at accepted
      cases accepted
  · intro present
    rw [patch_of_deletes present]

/-- The triples of each document, where a document that is missing reads as an empty one, and the
containers. -/
def contents (store : Store) : (String → Graph) × List String :=
  (store.documentOrEmpty, store.containers)

theorem contents_put_same :
    (store.put url (store.documentOrEmpty url)).contents = store.contents :=
  Prod.ext (funext fun _ => documentOrEmpty_put_same) rfl

/-- A change that is refused leaves the contents as they were. -/
theorem change_refused {change : Write} {failure : Failure}
    (refused : (store.change url change).1 = .error failure) :
    (store.change url change).2.contents = store.contents := by
  cases change with
  | patch p =>
    rw [Store.change] at refused ⊢
    obtain ⟨-, accepted⟩ | ⟨missing, -, -, unmade⟩ := patch_cases store url p
    · rw [accepted] at refused
      cases refused
    · rw [unmade]
      exact contents_put_same
  | put graph => cases refused
  | delete =>
    rw [Store.change, remove] at refused ⊢
    split at refused
    · cases refused
    · rename_i absent
      rw [if_neg absent]

/-- A store that is only asked, or that refuses a change, keeps its contents. -/
theorem client_steady : client.Steady contents where
  kind _ _ := rfl
  download _ _ := rfl
  refused _ _ _ _ refused := change_refused refused

theorem calls_client_write {change : Write} :
    (client.write url change store).2.calls = store.calls ++ [⟨url, .write change⟩] := by
  cases change with
  | patch p =>
    change ((store.note url _).patch url p).2.calls = _
    obtain ⟨-, made⟩ | ⟨missing, -, -, refused⟩ := patch_cases (store.note url (.write (.patch p))) url p
    · rw [made]
      rfl
    · rw [refused]
      rfl
  | put graph => rfl
  | delete =>
    change ((store.note url _).remove url).2.calls = _
    unfold remove
    split <;> rfl

/-- One patch was made in the document at a URL, and in nothing else. -/
structure PatchedAt (before after : Store) (url : String) (p : Patch) : Prop where
  /-- The patch is the only change. -/
  writes : after.writes = before.writes ++ [⟨url, .write (.patch p)⟩]
  /-- The document has lost what is deleted and has what is inserted. -/
  document : ∀ t, t ∈ after.documentOrEmpty url ↔
    (t ∈ before.documentOrEmpty url ∧ t ∉ p.deletes) ∨ t ∈ p.inserts
  /-- The other documents are as they were. -/
  otherDocuments : ∀ other, other ≠ url → after.document? other = before.document? other
  /-- The containers are as they were. -/
  containers : after.containers = before.containers

/-- A patch that was accepted was made. -/
theorem patchedAt_of_accepted (accepted : (client.write url (.patch p) store).1 = .ok ()) :
    store.PatchedAt (client.write url (.patch p) store).2 url p := by
  let noted := store.note url (.write (.patch p))
  have present : ∀ t ∈ p.deletes, t ∈ noted.documentOrEmpty url := patch_eq_ok_iff.1 accepted
  have written : (client.write url (.patch p) store).2 =
      noted.put url (p.apply (noted.documentOrEmpty url)) :=
    congrArg Prod.snd (patch_of_deletes present)
  constructor
  case writes => simp [writes, calls_client_write, Call.isWrite]
  case document =>
    intro t
    rw [written, documentOrEmpty_put, if_pos rfl]
    exact Graph.mem_patch
  case otherDocuments =>
    intro other different
    rw [written, document?_put, if_neg different.symm]
    rfl
  case containers => rw [written]; rfl

/-- A document that has a triple is there. -/
theorem document?_of_mem {triple : Triple} (there : triple ∈ store.documentOrEmpty url) :
    store.document? url = some (store.documentOrEmpty url) := by
  unfold documentOrEmpty at *
  cases found : store.document? url with
  | none =>
    rw [found] at there
    exact absurd there (Graph.not_mem_empty triple)
  | some graph => rfl

/-! ### Containers -/

theorem mem_map_putDocument {documents : List (String × Graph)} :
    other ∈ (putDocument url graph documents).map Prod.fst ↔
      other = url ∨ other ∈ documents.map Prod.fst := by
  induction documents with
  | nil => simp [putDocument]
  | cons head rest ih =>
    obtain ⟨u, g⟩ := head
    unfold putDocument
    split
    · rename_i same
      simp [same]
    · split
      · simp
      · simp only [List.map_cons, List.mem_cons, ih]
        exact or_left_comm

theorem mem_children : other ∈ store.children url ↔
    (other ∈ store.documentUrls ∨ other ∈ store.containers) ∧ isDirectChild url other = true := by
  simp [children, or_and_right]

/-- The triples of a container are those of its document, its types, and a listing of its
children. -/
theorem mem_containerGraph {listing : Graph} (listed : store.containerGraph url = .ok listing)
    {triple : Triple} :
    triple ∈ listing ↔ triple ∈ store.documentOrEmpty url ∨
      triple = Graph.typing (.iri url) Ldp.container ∨
      triple = Graph.typing (.iri url) Ldp.basicContainer ∨
      ∃ child ∈ store.children url, containment url child = triple := by
  unfold containerGraph at listed
  split at listed
  · cases listed
  · cases listed
    simp

/-- A container can be read if its URL and those of its children are valid. -/
theorem exists_containerGraph_iff :
    (∃ listing, store.containerGraph url = .ok listing) ↔
      ∀ other ∈ url :: store.children url, Iri.isAbsolute other = true := by
  unfold containerGraph
  split
  · rename_i invalid found
    have relative : (!Iri.isAbsolute invalid) = true := by simpa using List.find?_some found
    have mem := List.mem_of_find?_eq_some found
    refine iff_of_false nofun fun valid => ?_
    rw [valid invalid mem] at relative
    cases relative
  · rename_i found
    refine iff_of_true ⟨_, rfl⟩ fun other mem => ?_
    simpa using List.find?_eq_none.1 found other mem

theorem kindOf_of_isContainer (container : store.isContainer url = true) :
    store.kindOf url = .ok .container := by
  rw [kindOf, if_pos container]

theorem graphOf_of_isContainer (container : store.isContainer url = true) :
    store.graphOf url = store.containerGraph url := by
  rw [graphOf, if_pos container]

theorem kindOf_eq_document_iff :
    store.kindOf url = .ok .document ↔
      store.isContainer url = false ∧ (store.document? url).isSome = true := by
  unfold kindOf
  cases store.isContainer url <;> cases (store.document? url).isSome <;> simp

theorem graphOf_of_document (noContainer : store.isContainer url = false)
    (there : store.document? url = some graph) : store.graphOf url = .ok graph := by
  rw [graphOf, noContainer, there]
  rfl

/-- There is no resource at a URL if the answer is that there is none. -/
theorem absent_of_kindOf {failure : Failure} (failed : store.kindOf url = .error failure) :
    store.isContainer url = false ∧ store.document? url = none := by
  unfold kindOf at failed
  split at failed
  · cases failed
  · rename_i noContainer
    split at failed
    · cases failed
    · rename_i noDocument
      exact ⟨by simpa using noContainer, by simpa using noDocument⟩

end Store

end LinkedShapes.Ldp
