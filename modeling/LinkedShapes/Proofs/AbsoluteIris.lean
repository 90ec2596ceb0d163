import LinkedShapes.Proofs.Minting
import LinkedShapes.Proofs.Store

/-!
# Absolute IRIs

The nodes of a graph that have an IRI should have an absolute one, and the URLs of documents and containers
should be absolute too, as a container that lists a URL that is not cannot be read. `IsAbsolute` says this
of the data, from nodes to worlds. `Secures` says it of a program: as long as the graphs that it reads have
absolute nodes, it writes such nodes only, and only to absolute URLs.

## Main statements

* `isAbsolute_documentUrl`: the document of an absolute IRI has an absolute URL.
* `Store.IsAbsolute.exists_graphOf`: a container of absolute URLs can be read.
* `Store.IsAbsolute.change`: a write of absolute nodes to an absolute URL, accepted or not, keeps a store
  absolute.
* `Attempt.Secures.runIn`: so does a run of an attempt that secures its value, which is as secured.
-/

namespace LinkedShapes.Iri

namespace Reference

theorem splitBefore_append_of_free {stop : Char → Bool} {before rest : List Char}
    (free : ∀ c ∈ before, stop c = false) :
    splitBefore stop (before ++ rest) =
      (before ++ (splitBefore stop rest).1, (splitBefore stop rest).2) := by
  have free : ∀ c ∈ before, (!stop c) = true := fun c h => by simp [free c h]
  rw [splitBefore, List.takeWhile_append_of_pos free, List.dropWhile_append_of_pos free, splitBefore]

/-- A scheme before a colon is cut off. -/
theorem splitScheme_of_isScheme {scheme rest : List Char} (h : isScheme scheme = true) :
    splitScheme (scheme ++ ':' :: rest) = (some scheme, rest) := by
  have free : ∀ d ∈ scheme, decide (d = ':') = false := by
    intro d there
    exact decide_eq_false fun colon => not_mem_scheme (by decide) h (colon ▸ there)
  rw [splitScheme, splitBefore_append_of_free free]
  simp [splitBefore, h]

theorem splitBefore_of_free {stop : Char → Bool} {text : List Char}
    (free : ∀ c ∈ text, stop c = false) : splitBefore stop text = (text, []) := by
  have cut := @splitBefore_append_of_free _ _ [] free
  rw [List.append_nil] at cut
  rw [cut]
  simp [splitBefore]

/-- What is before the delimiter is not cut again. -/
theorem cutAt_takeWhile (delimiter : Char) (text : List Char) :
    cutAt delimiter (text.takeWhile (· ≠ delimiter)) = ((cutAt delimiter text).1, none) := by
  have free : ∀ c ∈ (cutAt delimiter text).1, decide (c = delimiter) = false := by
    intro c there
    exact decide_eq_false fun same => not_mem_cutAt delimiter text (same ▸ there)
  rw [← fst_cutAt, cutAt, splitBefore_of_free free]

/-- A text with a scheme has the same components up to its hash, but for the fragment. -/
theorem split_takeWhile {text scheme : List Char} (hasScheme : (split text).scheme = some scheme)
    (valid : isScheme scheme = true) :
    split (text.takeWhile (· ≠ '#')) = { split text with fragment := none } := by
  have cut : (splitScheme text).1 = some scheme := hasScheme
  have whole := splitScheme_append text
  rw [cut] at whole
  have free : ∀ c ∈ scheme, decide (c ≠ '#') = true := by
    intro c there
    exact decide_eq_true fun hash => not_mem_scheme (by decide) valid (hash ▸ there)
  have before : text.takeWhile (· ≠ '#') =
      scheme ++ ':' :: (splitScheme text).2.takeWhile (· ≠ '#') := by
    calc text.takeWhile (· ≠ '#')
      _ = (scheme ++ [':'] ++ (splitScheme text).2).takeWhile (· ≠ '#') :=
        congrArg (List.takeWhile _) whole.symm
      _ = scheme ++ ':' :: (splitScheme text).2.takeWhile (· ≠ '#') := by
        rw [List.append_assoc, List.takeWhile_append_of_pos free, List.singleton_append,
          List.takeWhile_cons_of_pos rfl]
  rw [before, split, splitScheme_of_isScheme valid]
  simp only [cutAt_takeWhile, split, cut]

end Reference

/-- An absolute IRI without its fragment is absolute. -/
theorem isAbsolute_takeWhile {iri : String} (h : isAbsolute iri = true) :
    isAbsolute (String.ofList (iri.toList.takeWhile (· ≠ '#'))) = true := by
  simp only [isAbsolute, Bool.and_eq_true, String.toList_ofList] at h ⊢
  obtain ⟨hasScheme, valid⟩ := h
  obtain ⟨scheme, isScheme⟩ := Option.isSome_iff_exists.1 hasScheme
  have schemeValid : Iri.isScheme scheme = true := by
    rw [Reference.isValid, isScheme] at valid
    simp_all
  rw [Reference.split_takeWhile isScheme schemeValid]
  refine ⟨hasScheme, ?_⟩
  simp_all [Reference.isValid]

end LinkedShapes.Iri

namespace LinkedShapes.Rdf

/-- The node is blank or has an absolute IRI. -/
def Node.IsAbsolute : Node → Prop
  | .iri text => Iri.isAbsolute text = true
  | .blank _ => True

instance (node : Node) : Decidable node.IsAbsolute :=
  match node with
  | .iri text => inferInstanceAs (Decidable (Iri.isAbsolute text = true))
  | .blank _ => isTrue trivial

/-- The subject and the object of a triple are absolute, if they are nodes; the predicate and the datatype
of a literal need not be. -/
structure Triple.IsAbsolute (triple : Triple) : Prop where
  /-- The subject. -/
  subject : triple.subject.IsAbsolute
  /-- The object. -/
  object : ∀ node, triple.object.node? = some node → node.IsAbsolute

instance (triple : Triple) : Decidable triple.IsAbsolute :=
  decidable_of_iff
    (triple.subject.IsAbsolute ∧ ∀ node ∈ triple.object.node?, node.IsAbsolute)
    ⟨fun h => ⟨h.1, h.2⟩, fun h => ⟨h.subject, h.object⟩⟩

/-- All nodes of the graph are absolute. -/
def Graph.IsAbsolute (graph : Graph) : Prop := ∀ t ∈ graph, t.IsAbsolute

instance (graph : Graph) : Decidable graph.IsAbsolute :=
  inferInstanceAs (Decidable (∀ t ∈ graph.triples, t.IsAbsolute))

section Graphs

variable {graph other : Graph} {triples inserts deletes : List Triple}

theorem Triple.isAbsolute_iri {subject predicate object : String}
    (ofSubject : Iri.isAbsolute subject = true) (ofObject : Iri.isAbsolute object = true) :
    Triple.IsAbsolute ⟨.iri subject, predicate, .iri object⟩ where
  subject := ofSubject
  object := by
    rintro _ ⟨⟩
    exact ofObject

theorem Triple.isAbsolute_literal {subject predicate : String} {literal : Literal}
    (ofSubject : Iri.isAbsolute subject = true) :
    Triple.IsAbsolute ⟨.iri subject, predicate, .literal literal⟩ :=
  ⟨ofSubject, nofun⟩

theorem Graph.isAbsolute_empty : Graph.empty.IsAbsolute :=
  fun t h => absurd h (Graph.not_mem_empty t)

theorem Graph.isAbsolute_ofList (all : ∀ t ∈ triples, t.IsAbsolute) :
    (Graph.ofList triples).IsAbsolute :=
  fun t h => all t (Graph.mem_ofList.1 h)

theorem Graph.IsAbsolute.merge (isAbsolute : graph.IsAbsolute) (isAbsolute' : other.IsAbsolute) :
    (graph.merge other).IsAbsolute :=
  fun t h => (Graph.mem_merge.1 h).elim (isAbsolute t) (isAbsolute' t)

theorem Graph.IsAbsolute.addAll (isAbsolute : graph.IsAbsolute)
    (all : ∀ t ∈ triples, t.IsAbsolute) : (graph.addAll triples).IsAbsolute :=
  fun t h => (Graph.mem_addAll.1 h).elim (isAbsolute t) (all t)

theorem Graph.IsAbsolute.patch (isAbsolute : graph.IsAbsolute)
    (all : ∀ t ∈ inserts, t.IsAbsolute) : (graph.patch inserts deletes).IsAbsolute :=
  fun t h => (Graph.mem_patch.1 h).elim (fun kept => isAbsolute t kept.1) (all t)

end Graphs

end LinkedShapes.Rdf

namespace LinkedShapes.Ldp

open Rdf

/-- The document of an absolute IRI has an absolute URL. -/
theorem isAbsolute_documentUrl {iri : String} (h : Iri.isAbsolute iri = true) :
    Iri.isAbsolute (documentUrl iri) = true :=
  Iri.isAbsolute_takeWhile h

/-- The nodes that a write adds are absolute. -/
def Write.IsAbsolute : Write → Prop
  | .patch p => ∀ t ∈ p.inserts, t.IsAbsolute
  | .put graph => graph.IsAbsolute
  | .delete => True

/-- The URLs of the documents and containers of a store are absolute, and so are the nodes of its
documents. -/
structure Store.IsAbsolute (store : Store) : Prop where
  /-- The URL and the nodes of each document. -/
  documents : ∀ entry ∈ store.documents, Iri.isAbsolute entry.1 = true ∧ entry.2.IsAbsolute
  /-- The URL of each container. -/
  containers : ∀ url ∈ store.containers, Iri.isAbsolute url = true

namespace Store

variable {store : Store} {url : String} {graph : Graph}

theorem mem_putDocument {documents : List (String × Graph)} {entry : String × Graph}
    (mem : entry ∈ putDocument url graph documents) : entry = (url, graph) ∨ entry ∈ documents := by
  induction documents with
  | nil => exact Or.inl (List.mem_singleton.1 mem)
  | cons head rest ih =>
    obtain ⟨u, g⟩ := head
    unfold putDocument at mem
    split at mem
    · exact (List.mem_cons.1 mem).imp_right (List.mem_cons_of_mem _)
    · split at mem
      · exact List.mem_cons.1 mem
      · rcases List.mem_cons.1 mem with rfl | mem
        · exact Or.inr List.mem_cons_self
        · exact (ih mem).imp_right (List.mem_cons_of_mem _)

namespace IsAbsolute

theorem document? (isAbsolute : store.IsAbsolute) (there : store.document? url = some graph) :
    graph.IsAbsolute := by
  unfold Store.document? at there
  obtain ⟨entry, found, rfl⟩ := Option.map_eq_some_iff.1 there
  exact (isAbsolute.documents entry (List.mem_of_find?_eq_some found)).2

theorem documentOrEmpty (isAbsolute : store.IsAbsolute) (url : String) :
    (store.documentOrEmpty url).IsAbsolute := by
  unfold Store.documentOrEmpty
  cases there : store.document? url with
  | none => exact Graph.isAbsolute_empty
  | some graph => exact isAbsolute.document? there

theorem note (isAbsolute : store.IsAbsolute) (operation : Operation) :
    (store.note url operation).IsAbsolute :=
  ⟨isAbsolute.documents, isAbsolute.containers⟩

theorem put (isAbsolute : store.IsAbsolute) (ofUrl : Iri.isAbsolute url = true)
    (ofGraph : graph.IsAbsolute) : (store.put url graph).IsAbsolute where
  documents entry mem := by
    rcases mem_putDocument mem with rfl | mem
    · exact ⟨ofUrl, ofGraph⟩
    · exact isAbsolute.documents entry mem
  containers := isAbsolute.containers

/-- What is written to an absolute URL keeps a store absolute, also where a patch is refused. -/
theorem change (isAbsolute : store.IsAbsolute) {write : Write} (ofUrl : Iri.isAbsolute url = true)
    (ofWrite : write.IsAbsolute) : (store.change url write).2.IsAbsolute := by
  have document := isAbsolute.documentOrEmpty url
  cases write with
  | patch p =>
    obtain ⟨-, accepted⟩ | ⟨missing, -, -, refused⟩ := patch_cases store url p
    · rw [Store.change, accepted]
      exact isAbsolute.put ofUrl (document.patch ofWrite)
    · rw [Store.change, refused]
      exact isAbsolute.put ofUrl document
  | put graph => exact isAbsolute.put ofUrl ofWrite
  | delete =>
    rw [Store.change, Store.remove]
    split
    · exact ⟨fun entry mem => isAbsolute.documents entry (List.mem_filter.1 mem).1,
        fun other mem => isAbsolute.containers other (List.mem_filter.1 mem).1⟩
    · exact isAbsolute

/-- The children of a container have absolute URLs. -/
theorem children (isAbsolute : store.IsAbsolute) {child : String}
    (mem : child ∈ store.children url) : Iri.isAbsolute child = true := by
  rcases (mem_children.1 mem).1 with listed | listed
  · obtain ⟨entry, there, rfl⟩ := List.mem_map.1 listed
    exact (isAbsolute.documents entry there).1
  · exact isAbsolute.containers child listed

/-- A container can be read. -/
theorem exists_graphOf (isAbsolute : store.IsAbsolute) (isContainer : url ∈ store.containers) :
    ∃ graph, store.graphOf url = .ok graph := by
  have valid : (url :: store.children url).find? (!Iri.isAbsolute ·) = none := by
    rw [List.find?_eq_none]
    intro other mem
    rcases List.mem_cons.1 mem with rfl | mem
    · simp [isAbsolute.containers other isContainer]
    · simp [isAbsolute.children mem]
  rw [graphOf_of_isContainer (decide_eq_true isContainer), containerGraph, valid]
  exact ⟨_, rfl⟩

/-- What is read of a resource has absolute nodes. -/
theorem graphOf (isAbsolute : store.IsAbsolute) (read : store.graphOf url = .ok graph) :
    graph.IsAbsolute := by
  unfold Store.graphOf at read
  split at read
  · rename_i isContainer
    have ofUrl := isAbsolute.containers url (of_decide_eq_true isContainer)
    intro t mem
    rcases (mem_containerGraph read).1 mem with there | rfl | rfl | ⟨child, listed, rfl⟩
    · exact isAbsolute.documentOrEmpty url t there
    · exact Triple.isAbsolute_iri ofUrl (by decide +kernel)
    · exact Triple.isAbsolute_iri ofUrl (by decide +kernel)
    · exact Triple.isAbsolute_iri ofUrl (isAbsolute.children listed)
  · split at read
    · rename_i there
      cases read
      exact isAbsolute.document? there
    · cases read

end IsAbsolute

end Store

end LinkedShapes.Ldp

namespace LinkedShapes.Resolution

open Rdf Ldp Schema

/-- The store of a world and its shared graphs are absolute. -/
structure World.IsAbsolute (world : World Store) : Prop where
  /-- The store. -/
  resources : world.resources.IsAbsolute
  /-- The shared graphs. -/
  graphs : ∀ graph ∈ world.graphs, graph.IsAbsolute

namespace World.IsAbsolute

variable {world : World Store}

theorem graph (isAbsolute : world.IsAbsolute) (ref : GraphRef) : (world.graph ref).IsAbsolute := by
  unfold World.graph
  by_cases made : ref < world.graphs.size
  · rw [Array.getD_eq_getD_getElem?, Array.getElem?_eq_getElem made]
    exact isAbsolute.graphs _ (Array.getElem_mem made)
  · rw [Array.getD_eq_getD_getElem?, Array.getElem?_eq_none (Nat.le_of_not_lt made)]
    exact Graph.isAbsolute_empty

theorem withResources (isAbsolute : world.IsAbsolute) {resources : Store}
    (ofResources : resources.IsAbsolute) : ({ world with resources } : World Store).IsAbsolute :=
  ⟨ofResources, isAbsolute.graphs⟩

theorem push (isAbsolute : world.IsAbsolute) {graph : Graph} (ofGraph : graph.IsAbsolute) :
    ({ world with graphs := world.graphs.push graph } : World Store).IsAbsolute := by
  refine ⟨isAbsolute.resources, fun other mem => ?_⟩
  rcases Array.mem_push.1 mem with mem | rfl
  · exact isAbsolute.graphs other mem
  · exact ofGraph

theorem patchGraph (isAbsolute : world.IsAbsolute) {ref : GraphRef} {patch : Patch}
    (inserts : ∀ t ∈ patch.inserts, t.IsAbsolute) : (world.patchGraph ref patch).IsAbsolute := by
  refine ⟨isAbsolute.resources, fun other mem => ?_⟩
  rcases Array.mem_or_eq_of_mem_setIfInBounds mem with mem | rfl
  · exact isAbsolute.graphs other mem
  · exact (isAbsolute.graph ref).patch inserts

end World.IsAbsolute

/-! ### Programs that write absolute nodes -/

/-- The nodes that an action writes are absolute, and so is the URL that it writes them to. -/
def Action.WritesAbsolute : Action → Prop
  | .write url change => Iri.isAbsolute url = true ∧ change.IsAbsolute
  | .newGraph graph => graph.IsAbsolute
  | .changeGraph _ patch => ∀ t ∈ patch.inserts, t.IsAbsolute
  | .kind _ | .download _ | .readGraph _ | .freshName => True

/-- The nodes of the graph that is answered to an action, if one is, are absolute. -/
def Action.ReadsAbsolute : (action : Action) → action.Answer → Prop
  | .download _, answer => ∀ graph, answer = .ok graph → graph.IsAbsolute
  | .readGraph _, graph => graph.IsAbsolute
  | .kind _, _ | .write _ _, _ | .newGraph _, _ | .changeGraph _ _, _ | .freshName, _ => True

/-- Only absolute nodes are written, as long as only such nodes are read. -/
def Contract.absolute : Contract where
  allows := Action.WritesAbsolute
  answers := Action.ReadsAbsolute

/-- An action that writes absolute nodes in an absolute world reads such nodes, and leaves the world
absolute. -/
theorem World.IsAbsolute.perform {action : Action} {world : World Store} (isAbsolute : world.IsAbsolute)
    (writes : action.WritesAbsolute) :
    action.ReadsAbsolute (action.perform Store.client world).1 ∧
      (action.perform Store.client world).2.IsAbsolute := by
  cases action with
  | kind url => exact ⟨trivial, isAbsolute.withResources (isAbsolute.resources.note _)⟩
  | download url =>
    exact ⟨fun graph read => isAbsolute.resources.graphOf read,
      isAbsolute.withResources (isAbsolute.resources.note _)⟩
  | write url change =>
    exact ⟨trivial, isAbsolute.withResources
      ((isAbsolute.resources.note _).change writes.1 writes.2)⟩
  | newGraph graph => exact ⟨trivial, isAbsolute.push writes⟩
  | readGraph ref => exact ⟨isAbsolute.graph ref, isAbsolute⟩
  | changeGraph ref patch => exact ⟨trivial, isAbsolute.patchGraph writes⟩
  | freshName => exact ⟨trivial, isAbsolute.resources, isAbsolute.graphs⟩

variable {α β : Type}

namespace Attempt

/-- The attempt writes only absolute IRIs as long as it reads no other ones, and the values that it may end
with are as they should be; see `Contract.absolute`. -/
def Secures (post : α → Prop) (attempt : Attempt α) : Prop :=
  Program.Meets .absolute (fun result => ∀ value, result = .ok value → post value) attempt.run

variable {mid : α → Prop} {post : β → Prop} {url : String} {graph : Graph}

theorem secures_pure {value : α} (holds : mid value) : (pure value : Attempt α).Secures mid := by
  rintro _ ⟨⟩
  exact holds

theorem secures_throw (cause : ResolveError) : (throw cause : Attempt α).Secures mid := nofun

theorem secures_lift {value : Except ResolveError α} (holds : ∀ a, value = .ok a → mid a) :
    (liftM value : Attempt α).Secures mid := holds

theorem secures_askKind (url : String) : (askKind url).Secures fun _ => True :=
  ⟨trivial, fun _ _ _ _ => trivial⟩

theorem secures_askDownload (url : String) :
    (askDownload url).Secures fun answer => ∀ graph, answer = .ok graph → graph.IsAbsolute := by
  refine ⟨trivial, ?_⟩
  rintro answer read _ ⟨⟩
  exact read

theorem secures_newGraph (ofGraph : graph.IsAbsolute) : (newGraph graph).Secures fun _ => True :=
  ⟨ofGraph, fun _ _ _ _ => trivial⟩

theorem secures_readGraph (ref : GraphRef) : (readGraph ref).Secures Graph.IsAbsolute := by
  refine ⟨trivial, ?_⟩
  rintro graph read _ ⟨⟩
  exact read

theorem secures_changeGraph {ref : GraphRef} {patch : Patch}
    (inserts : ∀ t ∈ patch.inserts, t.IsAbsolute) :
    (changeGraph ref patch).Secures fun _ => True :=
  ⟨inserts, fun _ _ _ => trivial⟩

theorem secures_freshName : freshName.Secures fun _ => True := ⟨trivial, fun _ _ _ _ => trivial⟩

theorem Secures.bind {attempt : Attempt α} {f : α → Attempt β} (first : attempt.Secures mid)
    (rest : ∀ value, mid value → (f value).Secures post) : (attempt >>= f).Secures post := by
  refine Program.Meets.bind first fun value holds => ?_
  rcases value with cause | value
  · exact nofun
  · exact rest value (holds value rfl)

theorem secures_lift_bind {value : Except ResolveError α} {f : α → Attempt β}
    (rest : ∀ a, value = .ok a → (f a).Secures post) : (liftM value >>= f).Secures post :=
  have known : (liftM value : Attempt α).Secures fun a => value = .ok a := secures_lift fun _ h => h
  known.bind rest

theorem secures_ofSchema_bind {value : Except SchemaError α} {f : α → Attempt β}
    (rest : ∀ a, value = .ok a → (f a).Secures post) : (ofSchema value >>= f).Secures post := by
  cases value with
  | ok a => exact rest a rfl
  | error cause => exact nofun

theorem secures_kind (url : String) : (kind url).Secures fun _ => True :=
  (secures_askKind url).bind fun answer _ => by
    cases answer with
    | ok kind => exact secures_pure trivial
    | error failure => exact secures_throw _

theorem secures_download (url : String) : (download url).Secures Graph.IsAbsolute :=
  (secures_askDownload url).bind fun answer read => by
    cases answer with
    | ok graph => exact secures_pure (read graph rfl)
    | error failure => exact secures_throw _

theorem secures_write {change : Write} (ofUrl : Iri.isAbsolute url = true)
    (ofChange : change.IsAbsolute) : (write url change).Secures fun _ => True := by
  refine ⟨⟨ofUrl, ofChange⟩, fun answer _ => ?_⟩
  cases answer with
  | ok done => exact fun _ _ => trivial
  | error failure => exact nofun

/-- A run in an absolute world leaves an absolute world behind, also when it fails. -/
theorem Secures.runIn {attempt : Attempt α} {world : World Store} (secures : attempt.Secures mid)
    (isAbsolute : world.IsAbsolute) : (attempt.runIn Store.client world).2.IsAbsolute ∧
      ∀ value, (attempt.runIn Store.client world).1 = .ok value → mid value :=
  Program.Meets.run secures World.IsAbsolute
    (fun _ _ writes isAbsolute => isAbsolute.perform writes) isAbsolute

end Attempt

end LinkedShapes.Resolution
