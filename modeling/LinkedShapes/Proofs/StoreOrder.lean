import LinkedShapes.Proofs.Agreement
import LinkedShapes.Proofs.Reading
import LinkedShapes.Proofs.TripleOrder
import Mathlib.Data.List.Forall2

/-!
# The order of the triples in a store

A document lists its triples in the order in which they came. A query does not show it: what is read of a
graph is sorted by a text, and the texts tell nodes apart, and terms as far as they are read. So two stores
whose documents have the same triples, in whatever order, answer a query alike, with the same scalars and
the same entities in the same places, or with the same error. The graphs of these entities again have the
same triples, so that whatever is asked of them next is answered alike, too.

## Main statements

* `Store.SameTriples`: the stores that are not told apart.
* `Resolved.Alike`: the answers that show the same.
* `resolve_alike`: a query of stores with the same triples is answered alike.
* `Alongside.ask`, `Alongside.askAll`: so are queries one after another, of entities of earlier answers.
* `answers_ignore_order`: both, for all queries.
-/

/-! ### Graphs -/

namespace LinkedShapes.Rdf.Graph

/-- The graphs have the same triples. -/
def SameTriples (graph other : Graph) : Prop := ∀ t, t ∈ graph ↔ t ∈ other

namespace SameTriples

variable {graph other added added' : Graph} {node : Node} {property cls : String}

theorem merge (same : graph.SameTriples other) (same' : added.SameTriples added') :
    (graph.merge added).SameTriples (other.merge added') := fun t => by
  rw [mem_merge, mem_merge, same t, same' t]

theorem addAll (same : graph.SameTriples other) (triples : List Triple) :
    (graph.addAll triples).SameTriples (other.addAll triples) := fun t => by
  rw [mem_addAll, mem_addAll, same t]

theorem isInstance (same : graph.SameTriples other) (node : Node) (cls : String) :
    graph.isInstance node cls = other.isInstance node cls := by
  rw [Bool.eq_iff_iff, isInstance_eq_true_iff, isInstance_eq_true_iff, same]

/-- The instances of a class are listed in the order of their texts. -/
theorem sortedInstances (same : graph.SameTriples other) (cls : String) :
    Resolution.sortedInstances graph cls = Resolution.sortedInstances other cls :=
  Text.sortBy_eq_of_perm ((perm_find same _).map _)
    fun _ _ _ _ text => Node.text_injective text

/-- So are the documents in a listing. -/
theorem listedDocuments (same : graph.SameTriples other) :
    Resolution.listedDocuments graph = Resolution.listedDocuments other :=
  Text.sortBy_eq_of_perm
    ((((perm_find same _).map _).filterMap _).filter _) fun _ _ _ _ text => text

/-- And the linked entities. -/
theorem linkedNodes (same : graph.SameTriples other) (node : Node) (property : String)
    (cls : Option String) :
    Resolution.linkedNodes graph node property cls =
      Resolution.linkedNodes other node property cls := by
  have nodes : ((graph.values node property).filterMap fun t => t.object.node?).Perm
      ((other.values node property).filterMap fun t => t.object.node?) :=
    (perm_find same _).filterMap _
  have known : (fun n => cls.all (graph.isInstance n)) = fun n => cls.all (other.isInstance n) :=
    funext fun n => congrArg (Option.all · cls) (funext (same.isInstance n))
  rw [Resolution.linkedNodes, known]
  exact Text.sortBy_eq_of_perm (nodes.filter _) fun _ _ _ _ text => Node.text_injective text

theorem scalarValues (same : graph.SameTriples other) (node : Node) (property : String)
    (scalar : Scalar) :
    Resolution.scalarValues graph node property scalar =
      Resolution.scalarValues other node property scalar :=
  Resolution.scalarValues_congr fun _ _ => same _

end SameTriples

end LinkedShapes.Rdf.Graph

/-! ### Stores -/

namespace LinkedShapes.Ldp

open Rdf

/-- The results are two related values, or one error. -/
inductive SameEnd {ε α β : Type} (R : α → β → Prop) : Except ε α → Except ε β → Prop
  /-- Two values. -/
  | ok {value : α} {other : β} (related : R value other) : SameEnd R (.ok value) (.ok other)
  /-- One error. -/
  | error (cause : ε) : SameEnd R (.error cause) (.error cause)

/-- Stores with the same containers, and with documents of the same triples at the same URLs. -/
structure Store.SameTriples (store other : Store) : Prop where
  /-- The documents. -/
  documents : List.Forall₂ (fun entry entry' => entry.1 = entry'.1 ∧ entry.2.SameTriples entry'.2)
    store.documents other.documents
  /-- The containers. -/
  containers : store.containers = other.containers

namespace Store.SameTriples

variable {store other : Store}

theorem documentUrls (same : store.SameTriples other) : store.documentUrls = other.documentUrls := by
  have documents := same.documents
  unfold Store.documentUrls
  generalize store.documents = entries, other.documents = entries' at documents ⊢
  induction documents with
  | nil => rfl
  | cons head _ ih => rw [List.map_cons, List.map_cons, head.1, ih]

theorem children (same : store.SameTriples other) (url : String) :
    store.children url = other.children url := by
  rw [Store.children, same.documentUrls, same.containers, Store.children]

theorem isContainer (same : store.SameTriples other) (url : String) :
    store.isContainer url = other.isContainer url := by
  rw [Store.isContainer, same.containers, Store.isContainer]

theorem document? (same : store.SameTriples other) (url : String) :
    Option.Rel Graph.SameTriples (store.document? url) (other.document? url) := by
  have documents := same.documents
  unfold Store.document?
  generalize store.documents = entries, other.documents = entries' at documents ⊢
  induction documents with
  | nil => exact .none
  | @cons entry entry' _ _ head _ ih =>
    by_cases found : entry.1 = url
    · have found' : entry'.1 = url := head.1 ▸ found
      simpa [found, found'] using head.2
    · have found' : entry'.1 ≠ url := head.1 ▸ found
      simpa [found, found'] using ih

theorem documentOrEmpty (same : store.SameTriples other) (url : String) :
    (store.documentOrEmpty url).SameTriples (other.documentOrEmpty url) := by
  have documents := same.document? url
  unfold Store.documentOrEmpty
  generalize store.document? url = found, other.document? url = found' at documents ⊢
  cases documents with
  | some related => exact related
  | none => exact fun _ => Iff.rfl

theorem kindOf (same : store.SameTriples other) (url : String) :
    store.kindOf url = other.kindOf url := by
  have isSome : (store.document? url).isSome = (other.document? url).isSome := by
    have documents := same.document? url
    generalize store.document? url = found, other.document? url = found' at documents ⊢
    cases documents <;> rfl
  rw [Store.kindOf, same.isContainer, isSome, Store.kindOf]

/-- A resource is read with the same triples, or fails to be read in the same way. -/
theorem graphOf (same : store.SameTriples other) (url : String) :
    SameEnd Graph.SameTriples (store.graphOf url) (other.graphOf url) := by
  unfold Store.graphOf
  rw [same.isContainer]
  split
  · unfold Store.containerGraph
    rw [same.children]
    split
    · exact .error _
    · exact .ok ((same.documentOrEmpty url).addAll _)
  · have documents := same.document? url
    generalize store.document? url = found, other.document? url = found' at documents ⊢
    cases documents with
    | some related => exact .ok related
    | none => exact .error _

theorem note (same : store.SameTriples other) (url : String) (operation : Operation) :
    (store.note url operation).SameTriples (other.note url operation) :=
  ⟨same.documents, same.containers⟩

end Store.SameTriples

end LinkedShapes.Ldp

namespace LinkedShapes.Resolution

open Rdf Ldp Schema Attempt

/-! ### Answers -/

section Answers

variable {world world' after after' : World Store}

/-- Two references are to shared graphs with the same triples. -/
structure SharedAlike (world world' : World Store) (ref ref' : GraphRef) : Prop where
  /-- The first graph was made. -/
  made : ref < world.graphs.size
  /-- The second graph was made. -/
  made' : ref' < world'.graphs.size
  /-- They have the same triples. -/
  same : (world.graph ref).SameTriples (world'.graph ref')

/-- Contexts that show the same: of one node at one URL, in graphs with the same triples. -/
structure Context.Alike (world world' : World Store) (context context' : Context) : Prop where
  /-- The graphs. -/
  graph : SharedAlike world world' context.graph context'.graph
  /-- The node. -/
  subject : context.subject = context'.subject
  /-- The kind of the resource. -/
  kind : context.kind = context'.kind
  /-- The URL. -/
  url : context.url = context'.url
  /-- Whether a mutation was made. -/
  handled : context.handled = context'.handled

/-- Values that show the same: the same scalars and entities that show the same, in the same places. -/
inductive Resolved.Alike (world world' : World Store) : Resolved → Resolved → Prop
  /-- No value. -/
  | null : Alike world world' .null .null
  /-- A scalar. -/
  | scalar (value : Json) : Alike world world' (.scalar value) (.scalar value)
  /-- An entity. -/
  | node {context context' : Context} (alike : context.Alike world world' context') :
      Alike world world' (.node context) (.node context')
  /-- A list of values. -/
  | list {items items' : List Resolved} (length : items.length = items'.length)
      (each : ∀ (place : Nat) (item item' : Resolved), items[place]? = some item →
        items'[place]? = some item' → Alike world world' item item') :
      Alike world world' (.list items) (.list items')

theorem SharedAlike.of_extends {ref ref' : GraphRef} (alike : SharedAlike world world' ref ref')
    (extended : world.Extends after) (extended' : world'.Extends after') :
    SharedAlike after after' ref ref' where
  made := Nat.lt_of_lt_of_le alike.made extended.size
  made' := Nat.lt_of_lt_of_le alike.made' extended'.size
  same := by
    rw [extended.graph ref alike.made, extended'.graph ref' alike.made']
    exact alike.same

theorem Context.Alike.of_extends {context context' : Context}
    (alike : context.Alike world world' context') (extended : world.Extends after)
    (extended' : world'.Extends after') : context.Alike after after' context' :=
  { alike with graph := alike.graph.of_extends extended extended' }

/-- Values that show the same do so as long as no graph is changed. -/
theorem Resolved.Alike.of_extends {result result' : Resolved}
    (alike : result.Alike world world' result') (extended : world.Extends after)
    (extended' : world'.Extends after') : result.Alike after after' result' := by
  induction alike with
  | null => exact .null
  | scalar value => exact .scalar value
  | node alike => exact .node (alike.of_extends extended extended')
  | list length _ ih => exact .list length ih

/-- Values that show the same lead to entities that show the same. -/
theorem Resolved.Alike.entityAt {result result' : Resolved}
    (alike : result.Alike world world' result') (place : Nat) :
    Option.Rel (Context.Alike world world') (result.entityAt place) (result'.entityAt place) := by
  cases alike with
  | null => exact .none
  | scalar value => exact .none
  | node alike => exact .some alike
  | @list items items' length each =>
    simp only [Resolved.entityAt]
    by_cases inside : place < items.length
    · have inside' : place < items'.length := length ▸ inside
      have alike := each place _ _ (List.getElem?_eq_getElem inside)
        (List.getElem?_eq_getElem inside')
      rw [List.getElem?_eq_getElem inside, List.getElem?_eq_getElem inside']
      generalize items[place] = item, items'[place] = item' at alike ⊢
      cases alike with
      | node alike => exact .some alike
      | null | scalar | list => exact .none
    · have outside' : items'.length ≤ place := length ▸ Nat.le_of_not_lt inside
      rw [List.getElem?_eq_none (Nat.le_of_not_lt inside), List.getElem?_eq_none outside']
      exact .none

theorem Resolved.alike_ofItems {items items' : List Resolved}
    (each : List.Forall₂ (Resolved.Alike world world') items items') (list : Bool) :
    (Resolved.ofItems items list).Alike world world' (Resolved.ofItems items' list) := by
  cases list with
  | true =>
    obtain ⟨length, each⟩ := List.forall₂_iff_get.1 each
    refine .list length fun place item item' found found' => ?_
    obtain ⟨inside, rfl⟩ := List.getElem?_eq_some_iff.1 found
    obtain ⟨inside', rfl⟩ := List.getElem?_eq_some_iff.1 found'
    exact each place inside inside'
  | false =>
    cases each with
    | nil => exact .null
    | cons first _ => exact first

/-- The entities that a node leads to from contexts that show the same show the same. -/
theorem Context.Alike.entity {context context' : Context}
    (alike : context.Alike world world' context') (node : Node) :
    (context.entity node).Alike world world' (context'.entity node) := by
  obtain ⟨_, ref, kind, url, handled⟩ := context
  obtain ⟨_, ref', kind', url', handled'⟩ := context'
  obtain ⟨graph, -, rfl, rfl, rfl⟩ := alike
  cases node <;> cases kind <;> exact ⟨graph, rfl, rfl, rfl, rfl⟩

theorem Context.Alike.identifier? {context context' : Context}
    (alike : context.Alike world world' context') : context.identifier? = context'.identifier? := by
  rw [Context.identifier?, alike.subject, alike.url, Context.identifier?]

theorem Resolved.alike_ofContext? {found found' : Option Context}
    (alike : Option.Rel (Context.Alike world world') found found') :
    (Resolved.ofContext? found).Alike world world' (Resolved.ofContext? found') := by
  cases alike with
  | some alike => exact .node alike
  | none => exact .null

/-- What a field reads shows the same in contexts that show the same. -/
theorem readField_alike {context context' : Context} (resolver : Resolver) (field : Field)
    (alike : context.Alike world world' context') :
    (readField resolver field context (world.graph context.graph)).Alike world world'
      (readField resolver field context' (world'.graph context'.graph)) := by
  have same := alike.graph.same
  unfold readField
  rw [← alike.subject, ← alike.identifier?]
  split
  · cases context.identifier? with
    | some text => exact .scalar _
    | none => exact .null
  · cases field.type.scalar? with
    | some scalar =>
      simp only [same.scalarValues]
      exact Resolved.alike_ofItems (List.forall₂_same.2 fun value mem => by
        obtain ⟨json, -, rfl⟩ := List.mem_map.1 mem
        exact .scalar json) _
    | none =>
      simp only [same.linkedNodes]
      refine Resolved.alike_ofItems ?_ _
      rw [List.forall₂_map_left_iff, List.forall₂_map_right_iff]
      exact List.forall₂_same.2 fun n _ => .node (alike.entity n)
  · exact .null

end Answers

/-! ### Two runs -/

section Runs

variable {α β : Type} {world world' : World Store} {attempt attempt' : Attempt α}
  {R : World Store → World Store → α → α → Prop} {S : World Store → World Store → β → β → Prop}

/-- Two runs end with related values or with one error, and leave stores with the same triples. -/
structure SameOutcome (R : World Store → World Store → α → α → Prop)
    (outcome outcome' : Except ResolveError α × World Store) : Prop where
  /-- The stores. -/
  resources : outcome.2.resources.SameTriples outcome'.2.resources
  /-- The values or the error. -/
  ends : SameEnd (R outcome.2 outcome'.2) outcome.1 outcome'.1

/-- Runs of two attempts from two worlds have the same outcome. -/
def RunAlike (R : World Store → World Store → α → α → Prop) (attempt attempt' : Attempt α)
    (world world' : World Store) : Prop :=
  SameOutcome R (attempt.runIn Store.client world) (attempt'.runIn Store.client world')

theorem runAlike_pure {value value' : α} (same : world.resources.SameTriples world'.resources)
    (related : R world world' value value') : RunAlike R (pure value) (pure value') world world' :=
  ⟨same, .ok related⟩

theorem runAlike_throw (same : world.resources.SameTriples world'.resources) (cause : ResolveError) :
    RunAlike R (throw cause) (throw cause) world world' :=
  ⟨same, .error cause⟩

/-- After two runs with the same outcome, what goes on alike has the same outcome. -/
theorem RunAlike.bind {next next' : α → Attempt β} (first : RunAlike R attempt attempt' world world')
    (rest : ∀ value value' between between', between.resources.SameTriples between'.resources →
      R between between' value value' → RunAlike S (next value) (next' value') between between') :
    RunAlike S (attempt >>= next) (attempt' >>= next') world world' := by
  unfold RunAlike at first ⊢
  rw [runIn_bind, runIn_bind]
  generalize attempt.runIn Store.client world = outcome,
    attempt'.runIn Store.client world' = outcome' at first ⊢
  obtain ⟨result, between⟩ := outcome
  obtain ⟨result', between'⟩ := outcome'
  obtain ⟨resources, ends⟩ := first
  cases ends with
  | ok related => exact rest _ _ between between' resources related
  | error cause => exact ⟨resources, .error cause⟩

/-- What is known without a world is the same in both runs. -/
theorem runAlike_lift_bind {value : Except ResolveError α} {next next' : α → Attempt β}
    (same : world.resources.SameTriples world'.resources)
    (rest : ∀ a, value = .ok a → RunAlike S (next a) (next' a) world world') :
    RunAlike S (liftM value >>= next) (liftM value >>= next') world world' := by
  cases value with
  | ok a => exact rest a rfl
  | error cause => exact ⟨same, .error cause⟩

theorem runAlike_askDownload (same : world.resources.SameTriples world'.resources) (url : String) :
    RunAlike (fun _ _ => SameEnd Graph.SameTriples) (askDownload url) (askDownload url) world world' :=
  ⟨same.note url .download, .ok (same.graphOf url)⟩

theorem runAlike_kind (same : world.resources.SameTriples world'.resources) (url : String) :
    RunAlike (fun _ _ => Eq) (Attempt.kind url) (Attempt.kind url) world world' := by
  have asked : RunAlike (fun _ _ => Eq) (askKind url) (askKind url) world world' :=
    ⟨same.note url .kind, .ok (same.kindOf url)⟩
  refine asked.bind fun answer _ between between' same eq => ?_
  subst eq
  cases answer with
  | ok kind => exact runAlike_pure same rfl
  | error failure => exact runAlike_throw same _

theorem runAlike_download (same : world.resources.SameTriples world'.resources) (url : String) :
    RunAlike (fun _ _ => Graph.SameTriples) (Attempt.download url) (Attempt.download url)
      world world' := by
  refine (runAlike_askDownload same url).bind fun answer answer' between between' same ends => ?_
  cases ends with
  | ok graphs => exact runAlike_pure same graphs
  | error failure => exact runAlike_throw same _

theorem runAlike_newGraph {graph graph' : Graph}
    (same : world.resources.SameTriples world'.resources) (graphs : graph.SameTriples graph') :
    RunAlike SharedAlike (newGraph graph) (newGraph graph') world world' := by
  refine ⟨same, .ok ⟨?_, ?_, ?_⟩⟩
  · exact Nat.lt_of_lt_of_eq (Nat.lt_succ_self _) (Array.size_push graph).symm
  · exact Nat.lt_of_lt_of_eq (Nat.lt_succ_self _) (Array.size_push graph').symm
  · have pushed : (world.addGraph graph).2.graph world.graphs.size = graph :=
      World.graph_of_push rfl
    have pushed' : (world'.addGraph graph').2.graph world'.graphs.size = graph' :=
      World.graph_of_push rfl
    change Graph.SameTriples ((world.addGraph graph).2.graph world.graphs.size)
      ((world'.addGraph graph').2.graph world'.graphs.size)
    rw [pushed, pushed']
    exact graphs

/-! ### Looking up -/

theorem runAlike_lookUpInstance (same : world.resources.SameTriples world'.resources)
    (cls target : String) (node : Node) :
    RunAlike (fun w w' => Option.Rel (Context.Alike w w')) (lookUpInstance cls target node)
      (lookUpInstance cls target node) world world' := by
  refine (runAlike_kind same target).bind fun kind _ _ _ same eq => ?_
  subst eq
  refine (runAlike_askDownload same _).bind fun answer answer' _ _ same ends => ?_
  cases ends with
  | error failure =>
    dsimp only
    split
    · exact runAlike_pure same .none
    · exact runAlike_throw same _
  | ok graphs =>
    dsimp only
    rw [graphs.isInstance]
    split
    · refine (runAlike_newGraph same graphs).bind fun ref ref' _ _ same shared => ?_
      exact runAlike_pure same (.some ⟨shared, rfl, rfl, rfl, rfl⟩)
    · exact runAlike_pure same .none

theorem runAlike_foldlM_download {merged merged' : Graph} (urls : List String)
    (same : world.resources.SameTriples world'.resources) (start : merged.SameTriples merged') :
    RunAlike (fun _ _ => Graph.SameTriples)
      (urls.foldlM (fun merged url => return merged.merge (← Attempt.download url)) merged)
      (urls.foldlM (fun merged url => return merged.merge (← Attempt.download url)) merged')
      world world' := by
  induction urls generalizing merged merged' world world' with
  | nil => exact runAlike_pure same start
  | cons url rest ih =>
    rw [List.foldlM_cons, List.foldlM_cons]
    have one : RunAlike (fun _ _ => Graph.SameTriples)
        (do return merged.merge (← Attempt.download url) : Attempt Graph)
        (do return merged'.merge (← Attempt.download url) : Attempt Graph) world world' :=
      (runAlike_download same url).bind fun _ _ _ _ same graphs =>
        runAlike_pure same (start.merge graphs)
    exact one.bind fun _ _ _ _ same both => ih same both

theorem runAlike_gather (same : world.resources.SameTriples world'.resources)
    {resource resource' : Graph} (resources : resource.SameTriples resource') (kind : ResourceKind) :
    RunAlike (fun _ _ => Graph.SameTriples) (gather resource kind) (gather resource' kind)
      world world' := by
  cases kind with
  | document => exact runAlike_pure same resources
  | container =>
    rw [gather, gather, resources.listedDocuments]
    exact runAlike_foldlM_download _ same fun _ => Iff.rfl

theorem runAlike_lookUpCollection (same : world.resources.SameTriples world'.resources)
    (cls target : String) :
    RunAlike (fun w w' => List.Forall₂ (Context.Alike w w')) (lookUpCollection cls target)
      (lookUpCollection cls target) world world' := by
  rw [lookUpCollection_eq]
  refine (runAlike_kind same target).bind fun kind _ _ _ same eq => ?_
  subst eq
  refine (runAlike_download same target).bind fun _ _ _ _ same resources => ?_
  refine (runAlike_gather same resources kind).bind fun graph graph' _ _ same graphs => ?_
  refine (runAlike_newGraph same graphs).bind fun ref ref' w w' same shared => ?_
  refine runAlike_pure same ?_
  rw [graphs.sortedInstances, List.forall₂_map_left_iff, List.forall₂_map_right_iff]
  have root : ({ graph := ref, kind := kind, url := target } : Context).Alike w w'
      { graph := ref', kind := kind, url := target } := ⟨shared, rfl, rfl, rfl, rfl⟩
  exact List.forall₂_same.2 fun node _ => root.entity node

/-- An entity that is looked up, or all instances of a class, are the same in both runs. -/
theorem runAlike_lookUp (same : world.resources.SameTriples world'.resources) {request request' : Request}
    (field : request.field = request'.field) (cls target : String) (node? : Option Node) :
    RunAlike Resolved.Alike (lookUp request cls target node?) (lookUp request' cls target node?)
      world world' := by
  cases node? with
  | some node =>
    refine (runAlike_lookUpInstance same cls target node).bind fun _ _ _ _ same found => ?_
    exact runAlike_pure same (Resolved.alike_ofContext? found)
  | none =>
    refine (runAlike_lookUpCollection same cls target).bind fun contexts contexts' _ _ same each => ?_
    refine runAlike_pure same ?_
    rw [field]
    refine Resolved.alike_ofItems ?_ _
    rw [List.forall₂_map_left_iff, List.forall₂_map_right_iff]
    exact each.imp fun _ _ => .node

end Runs

/-! ### Queries -/

/-- Two requests for one field with the same arguments, of entities that show the same. -/
structure Request.Alike (world world' : World Store) (request request' : Request) : Prop where
  /-- The type that the field belongs to. -/
  owner : request.owner = request'.owner
  /-- The field. -/
  field : request.field = request'.field
  /-- The arguments. -/
  arguments : request.arguments = request'.arguments
  /-- The entity. -/
  parent : Option.Rel (Context.Alike world world') request.parent request'.parent

section Requests

variable {world world' : World Store} {resolver : Resolver} {request request' : Request}

theorem Request.Alike.argument? (alike : request.Alike world world' request') (name : String) :
    request.argument? name = request'.argument? name := by
  rw [Request.argument?, alike.arguments, Request.argument?]

theorem Request.Alike.entryNode (alike : request.Alike world world' request') (target : String) :
    request.entryNode target = request'.entryNode target := by
  have subject : request.parent.bind Context.subject = request'.parent.bind Context.subject := by
    have parent := alike.parent
    generalize request.parent = parent, request'.parent = parent' at parent ⊢
    cases parent with
    | some alike => exact alike.subject
    | none => rfl
  rw [Request.entryNode, alike.argument?, subject, Request.entryNode]

theorem Request.Alike.queries (alike : request.Alike world world' request')
    (queries : request.Queries) : request'.Queries := by
  cases queries with
  | outside root mutator => exact .outside (alike.owner ▸ root) (alike.owner ▸ mutator)
  | below context parent handled =>
    have parents := alike.parent
    rw [parent] at parents
    generalize isParent : request'.parent = parent' at parents
    cases parents with
    | some alike => exact .below _ isParent (alike.handled ▸ handled)
  | member reads => exact .member (alike.field ▸ reads)

/-- A field that is read from the context of its entity fails without an entity. -/
theorem runIn_resolve_of_reads {σ : Type} {client : Client σ} {world : World σ}
    (reads : Reads request.field) (parent : request.parent = none) :
    (resolver.resolve request).runIn client world =
      (.error (.missingContext request.field.name), world) := by
  have missing : request.context = .error (.missingContext request.field.name) := by
    rw [Request.context, parent]
  unfold Resolver.resolve
  rcases reads_iff.1 reads with identifier | ⟨property, stands⟩
  · simp only [identifier, identifierValue, missing]
    rfl
  · simp only [stands]
    split
    · simp only [scalarProperty, missing]
      rfl
    · simp only [relationProperty, missing]
      rfl

/-- A query of stores with the same triples is answered alike. -/
theorem resolve_alike (resolver : Resolver) (queries : request.Queries)
    (same : world.resources.SameTriples world'.resources)
    (alike : request.Alike world world' request') :
    RunAlike Resolved.Alike (resolver.resolve request) (resolver.resolve request') world world' := by
  by_cases reads : Reads request.field
  · have reads' : Reads request'.field := alike.field ▸ reads
    have parents := alike.parent
    unfold RunAlike
    cases parent : request.parent with
    | none =>
      cases parent' : request'.parent with
      | none =>
        rw [runIn_resolve_of_reads reads parent, runIn_resolve_of_reads reads' parent', alike.field]
        exact ⟨same, .error _⟩
      | some context' =>
        rw [parent, parent'] at parents
        cases parents
    | some context =>
      cases parent' : request'.parent with
      | none =>
        rw [parent, parent'] at parents
        cases parents
      | some context' =>
        rw [parent, parent'] at parents
        have ran : (resolver.resolve request).Returns Store.client world _ world :=
          returns_resolve_of_reads reads parent
        have ran' : (resolver.resolve request').Returns Store.client world' _ world' :=
          returns_resolve_of_reads reads' parent'
        rw [ran, ran', alike.field]
        cases parents with
        | some alike => exact ⟨same, .ok (readField_alike resolver _ alike)⟩
  · rw [queries.resolve_eq reads, (alike.queries queries).resolve_eq (alike.field ▸ reads),
      entryPoint_eq, entryPoint_eq, alike.field]
    refine runAlike_lift_bind same fun cls _ => ?_
    refine runAlike_lift_bind same fun target _ => ?_
    rw [alike.entryNode]
    exact runAlike_lift_bind same fun node? _ => runAlike_lookUp same alike.field cls target node?

end Requests

/-! ### Queries one after another -/

/-- The answers that were given so far. -/
abbrev Answers := List (Except ResolveError Resolved)

/-- The entity at a place of an earlier answer. -/
def Answers.entityAt (answers : Answers) (number place : Nat) : Option Context :=
  match answers[number]? with
  | some (.ok answer) => answer.entityAt place
  | _ => none

/-- A field that is asked for after others. -/
structure Question where
  /-- The type that the field belongs to. -/
  owner : ObjectType
  /-- The field. -/
  field : Field
  /-- The values of the arguments. -/
  arguments : List (String × Json)
  /-- The earlier answer and the place in it where the entity of the field is; a field of a root has
  none. -/
  entity : Option (Nat × Nat)

/-- The request that a question is after some answers. -/
def Question.request (question : Question) (answers : Answers) : Request where
  owner := question.owner
  field := question.field
  arguments := question.arguments
  parent := question.entity.bind fun (number, place) => answers.entityAt number place

/-- The world and the answers after one question more. -/
def Resolver.ask {σ : Type} (resolver : Resolver) (client : Client σ) (state : World σ × Answers)
    (question : Question) : World σ × Answers :=
  let (answer, after) := (resolver.resolve (question.request state.2)).runIn client state.1
  (after, state.2 ++ [answer])

/-- The stores have the same triples, and what was answered so far shows the same. -/
structure Alongside (state state' : World Store × Answers) : Prop where
  /-- The stores. -/
  resources : state.1.resources.SameTriples state'.1.resources
  /-- The answers. -/
  answers : List.Forall₂ (SameEnd (Resolved.Alike state.1 state'.1)) state.2 state'.2

section Questions

variable {world world' after after' : World Store} {answers answers' : Answers}
  {state state' : World Store × Answers}

theorem SameEnd.of_extends {result result' : Except ResolveError Resolved}
    (ends : SameEnd (Resolved.Alike world world') result result') (extended : world.Extends after)
    (extended' : world'.Extends after') : SameEnd (Resolved.Alike after after') result result' := by
  cases ends with
  | ok alike => exact .ok (alike.of_extends extended extended')
  | error cause => exact .error cause

theorem Answers.entityAt_alike
    (alike : List.Forall₂ (SameEnd (Resolved.Alike world world')) answers answers')
    (number place : Nat) :
    Option.Rel (Context.Alike world world') (answers.entityAt number place)
      (answers'.entityAt number place) := by
  unfold Answers.entityAt
  induction alike generalizing number with
  | nil => exact .none
  | cons head _ ih =>
    cases number with
    | zero =>
      cases head with
      | ok alike => exact alike.entityAt place
      | error cause => exact .none
    | succ number => exact ih number

/-- A query that is asked of both is answered alike. -/
theorem Alongside.ask (alongside : Alongside state state') (resolver : Resolver) {question : Question}
    (queries : ∀ answers, (question.request answers).Queries) :
    Alongside (resolver.ask Store.client state question)
      (resolver.ask Store.client state' question) := by
  obtain ⟨world, answers⟩ := state
  obtain ⟨world', answers'⟩ := state'
  have requests : (question.request answers).Alike world world' (question.request answers') := by
    refine ⟨rfl, rfl, rfl, ?_⟩
    change Option.Rel _ (question.entity.bind _) (question.entity.bind _)
    cases question.entity with
    | none => exact .none
    | some entity => exact Answers.entityAt_alike alongside.answers entity.1 entity.2
  obtain ⟨resources, ends⟩ := resolve_alike resolver (queries answers) alongside.resources requests
  have extended := ((queries answers).inquires resolver).runIn_extends Store.client world
  have extended' := ((queries answers').inquires resolver).runIn_extends Store.client world'
  refine ⟨resources, List.rel_append ?_ (.cons ends .nil)⟩
  exact alongside.answers.imp fun _ _ ends => SameEnd.of_extends ends extended extended'

/-- So are queries one after another. -/
theorem Alongside.askAll (alongside : Alongside state state') (resolver : Resolver)
    {questions : List Question}
    (queries : ∀ question ∈ questions, ∀ answers, (question.request answers).Queries) :
    Alongside (questions.foldl (resolver.ask Store.client) state)
      (questions.foldl (resolver.ask Store.client) state') := by
  induction questions generalizing state state' with
  | nil => exact alongside
  | cons question rest ih =>
    exact ih (alongside.ask resolver (queries question List.mem_cons_self))
      fun other mem => queries other (List.mem_cons_of_mem _ mem)

end Questions

/-- Two stores whose documents have the same triples are not told apart by queries: a query with any
arguments, of entities that show the same, has answers that show the same or fails with one error. So do
queries one after another, each of an entity of an earlier answer or of none. -/
theorem answers_ignore_order (resolver : Resolver) (world world' : World Store)
    (same : world.resources.SameTriples world'.resources) :
    (∀ request request' : Request, request.Queries → request.Alike world world' request' →
      RunAlike Resolved.Alike (resolver.resolve request) (resolver.resolve request') world world') ∧
    ∀ questions : List Question,
      (∀ question ∈ questions, ∀ answers, (question.request answers).Queries) →
      Alongside (questions.foldl (resolver.ask Store.client) (world, []))
        (questions.foldl (resolver.ask Store.client) (world', [])) := by
  have alongside : Alongside (world, []) (world', []) := ⟨same, .nil⟩
  exact ⟨fun _ _ queries alike => resolve_alike resolver queries same alike,
    fun _ queries => alongside.askAll resolver queries⟩

namespace AddressBook

/-- The address book with its triples in another order. -/
def reversed : World Store where
  resources := (Store.empty.addContainer AddressBook.container).addTriples document triples.reverse
  graphs := #[Graph.ofList triples.reverse]
  names := { draw := fun _ => 0 }

/-- A query for a field of a type. -/
def question (owner name : String) (entity : Option (Nat × Nat)) : Question where
  owner := (field owner name [] none).owner
  field := (field owner name [] none).field
  arguments := []
  entity := entity

/-- All contacts, the addresses of the first one, and whom the second one knows. -/
def questions : List Question :=
  [question queryType "contactCollection" none, question "Contact" "email" (some (0, 0)),
   question "Contact" "knows" (some (0, 1))]

end AddressBook

open AddressBook

/-- The address book is read the same with its triples in another order. -/
theorem answers_ignore_order_reversed :
    RunAlike Resolved.Alike (resolver.resolve (field "Contact" "knows" [] (some ada)))
      (resolver.resolve (field "Contact" "knows" [] (some ada))) stored reversed ∧
    Alongside (questions.foldl (resolver.ask Store.client) (stored, []))
      (questions.foldl (resolver.ask Store.client) (reversed, [])) := by
  have listed (graph : Graph) : (graph.addAll triples).SameTriples (graph.addAll triples.reverse) := by
    intro t
    simp
  have same : stored.resources.SameTriples reversed.resources :=
    ⟨.cons ⟨rfl, listed Graph.empty⟩ .nil, rfl⟩
  have alike : ada.Alike stored reversed ada :=
    ⟨⟨Nat.zero_lt_one, Nat.zero_lt_one, listed Graph.empty⟩, rfl, rfl, rfl, rfl⟩
  obtain ⟨one, all⟩ := answers_ignore_order resolver stored reversed same
  have reads : Reads (field "Contact" "knows" [] (some ada)).field := by decide
  refine ⟨one _ _ (.member reads) ⟨rfl, rfl, rfl, .some alike⟩, all questions ?_⟩
  intro question mem answers
  have owners : ∀ question ∈ questions, question.owner.name ≠ mutationType ∧
      (question.owner.kind = .root ∨ question.owner.kind = .entity) := by decide +kernel
  obtain ⟨root, kind⟩ := owners question mem
  refine .outside root fun entity isMutator => ?_
  rcases kind with kind | kind <;> cases kind.symm.trans isMutator

end LinkedShapes.Resolution
