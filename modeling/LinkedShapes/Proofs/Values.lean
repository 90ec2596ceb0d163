import LinkedShapes.Proofs.DeletedState
import LinkedShapes.Proofs.TermText
import Mathlib.Data.List.Perm.Subperm

/-!
# What a field reads of a graph

A field reads the objects that a graph gives a node under a predicate, in the order of their texts.
Which triples the graph has is all that counts, not the order in which they came: graphs that give a
node the same readable values are read the same, and a graph that gives it more is read as more.

## Main statements

* `returns_scalars`, `returns_links`: the value of a field that stands for a predicate.
* `scalarValues_congr`: graphs with the same readable values of a node are read the same.
* `mem_of_scalarValues_eq`: a graph that is read the same as a part of it has no readable value more.
* `mem_linkedNodes`: the nodes that a relation leads to.
-/

namespace LinkedShapes.Resolution

open Rdf Ldp Schema Attempt

/-! ### Fields that stand for a predicate -/

theorem directive_of_property? {field : Field} {property : String}
    (stands : field.property? = some property) : field.directive = some (.property property) := by
  obtain ⟨directive, found, isProperty⟩ := Option.bind_eq_some_iff.1 stands
  cases directive with
  | property iri => rw [found, Option.some.inj isProperty]
  | identifier => cases isProperty
  | instancesOf cls => cases isProperty

theorem reads_of_property? {field : Field} {property : String}
    (stands : field.property? = some property) : Reads field :=
  Or.inr (by rw [stands]; rfl)

section Fields

variable {σ : Type} {client : Client σ} {world : World σ} {resolver : Resolver} {request : Request}
  {context : Context} {graph : Graph} {node : Node} {property : String}

/-- A field of scalars has the readable values of its predicate. -/
theorem returns_scalars {scalar : Scalar} (stands : request.field.property? = some property)
    (scalars : request.field.type.scalar? = some scalar) (parent : request.parent = some context)
    (subject : context.subject = some node) (shared : world.graph context.graph = graph) :
    (resolver.resolve request).Returns client world
      (.ofItems ((scalarValues graph node property scalar).map .scalar)
        request.field.type.list) world := by
  have ran : (resolver.resolve request).Returns client world _ world :=
    returns_resolve_of_reads (reads_of_property? stands) parent
  simpa only [readField, directive_of_property? stands, subject, scalars, shared] using ran

/-- A field of entities has those that its predicate links to and that are of its class. -/
theorem returns_links (stands : request.field.property? = some property)
    (entities : request.field.type.scalar? = none) (parent : request.parent = some context)
    (subject : context.subject = some node) (shared : world.graph context.graph = graph) :
    (resolver.resolve request).Returns client world
      (.ofItems ((linkedNodes graph node property
        (resolver.definition.classOf? request.field.type.name)).map fun n =>
          .node (context.entity n)) request.field.type.list) world := by
  have ran : (resolver.resolve request).Returns client world _ world :=
    returns_resolve_of_reads (reads_of_property? stands) parent
  simpa only [readField, directive_of_property? stands, subject, entities, shared] using ran

/-- A field with a list of entities has all those that its predicate links to and that are of its
class. -/
theorem returns_links_list (stands : request.field.property? = some property)
    (entities : request.field.type.scalar? = none) (list : request.field.type.list = true)
    (parent : request.parent = some context) (subject : context.subject = some node)
    (shared : world.graph context.graph = graph) :
    (resolver.resolve request).Returns client world
      (.list (((linkedNodes graph node property
        (resolver.definition.classOf? request.field.type.name)).map context.entity).map .node))
      world := by
  have ran : (resolver.resolve request).Returns client world _ world :=
    returns_links stands entities parent subject shared
  simpa [Resolved.ofItems, list, Function.comp_def] using ran

end Fields

/-! ### Graphs that are read the same -/

section Graphs

variable {graph copy : Graph} {node : Node} {property : String} {scalar : Scalar}

theorem mem_linkedNodes {cls : Option String} {n : Node} :
    n ∈ linkedNodes graph node property cls ↔
      ⟨node, property, .node n⟩ ∈ graph ∧ ∀ c, cls = some c → Graph.typing n c ∈ graph := by
  unfold linkedNodes
  rw [Text.mem_sortBy, List.mem_filter, List.mem_filterMap]
  refine and_congr ⟨?_, ?_⟩ (by cases cls <;> simp)
  · rintro ⟨⟨s, p, o⟩, found, object⟩
    obtain ⟨there, rfl, rfl⟩ := Graph.mem_values.1 found
    obtain rfl := Term.node?_eq_some_iff.1 object
    exact there
  · intro there
    exact ⟨_, Graph.mem_values.2 ⟨there, rfl, rfl⟩, rfl⟩

theorem mem_scalarValues {value : Json} :
    value ∈ scalarValues graph node property scalar ↔
      ∃ object, ⟨node, property, object⟩ ∈ graph ∧ scalar.read? object = some value := by
  unfold scalarValues
  simp only [List.mem_filterMap, Text.mem_sortBy, List.mem_map]
  constructor
  · rintro ⟨object, ⟨⟨s, p, o⟩, found, rfl⟩, read⟩
    obtain ⟨there, rfl, rfl⟩ := Graph.mem_values.1 found
    exact ⟨o, there, read⟩
  · rintro ⟨object, there, read⟩
    exact ⟨object, ⟨_, Graph.mem_values.2 ⟨there, rfl, rfl⟩, rfl⟩, read⟩

/-- The objects under a predicate that are read as a scalar. -/
def readableObjects (graph : Graph) (node : Node) (property : String) (scalar : Scalar) :
    List Term :=
  ((graph.values node property).map Triple.object).filter fun object =>
    (scalar.read? object).isSome

theorem mem_readableObjects {object : Term} :
    object ∈ readableObjects graph node property scalar ↔
      ⟨node, property, object⟩ ∈ graph ∧ (scalar.read? object).isSome = true := by
  unfold readableObjects
  rw [List.mem_filter, List.mem_map]
  refine and_congr_left fun _ => ⟨?_, ?_⟩
  · rintro ⟨⟨s, p, o⟩, found, rfl⟩
    obtain ⟨there, rfl, rfl⟩ := Graph.mem_values.1 found
    exact there
  · intro there
    exact ⟨_, Graph.mem_values.2 ⟨there, rfl, rfl⟩, rfl⟩

theorem nodup_readableObjects : (readableObjects graph node property scalar).Nodup := by
  refine List.Nodup.filter _ (List.Nodup.map_on ?_ (graph.nodup_find _))
  rintro ⟨s, p, o⟩ first ⟨t, q, u⟩ second same
  obtain ⟨-, rfl, rfl⟩ := Graph.mem_values.1 first
  obtain ⟨-, rfl, rfl⟩ := Graph.mem_values.1 second
  exact congrArg _ same

/-- The scalars of a node are what its readable objects are read as, in the order of their texts. -/
theorem exists_sorted_readableObjects (graph : Graph) (node : Node) (property : String)
    (scalar : Scalar) :
    ∃ sorted : List Term, sorted.Pairwise (Term.text · ≤ Term.text ·) ∧
      sorted.Perm (readableObjects graph node property scalar) ∧
      scalarValues graph node property scalar = (sorted.map scalar.read?).filterMap id := by
  refine ⟨(Text.sortBy Term.text ((graph.values node property).map Triple.object)).filter
    fun object => (scalar.read? object).isSome, ?_, ?_, ?_⟩
  · exact (Text.sorted_sortBy _ _).filter _
  · exact (Text.sortBy_perm _ _).filter _
  · rw [scalarValues, List.filterMap_map, List.filterMap_filter]
    refine List.filterMap_congr fun object _ => ?_
    cases read : scalar.read? object <;> simp [read]

/-- Graphs that give a node the same readable values are read the same. -/
theorem scalarValues_congr
    (same : ∀ object, (scalar.read? object).isSome = true →
      (⟨node, property, object⟩ ∈ graph ↔ ⟨node, property, object⟩ ∈ copy)) :
    scalarValues graph node property scalar = scalarValues copy node property scalar := by
  obtain ⟨items, sorted, perm, read⟩ := exists_sorted_readableObjects graph node property scalar
  obtain ⟨others, sorted', perm', read'⟩ := exists_sorted_readableObjects copy node property scalar
  have objects : (readableObjects graph node property scalar).Perm
      (readableObjects copy node property scalar) := by
    refine (List.perm_ext_iff_of_nodup nodup_readableObjects nodup_readableObjects).2 fun o => ?_
    rw [mem_readableObjects, mem_readableObjects]
    exact and_congr_left (same o)
  have shown : items.map scalar.read? = others.map scalar.read? :=
    Text.map_eq_of_sorted sorted sorted' (perm.trans (objects.trans perm'.symm))
      fun _ _ text => Scalar.read?_eq_of_text_eq text
  rw [read, read', shown]

theorem length_scalarValues :
    (scalarValues graph node property scalar).length =
      (readableObjects graph node property scalar).length := by
  obtain ⟨items, -, perm, read⟩ := exists_sorted_readableObjects graph node property scalar
  have readable : ∀ value ∈ items.map scalar.read?, (id value).isSome = true := by
    intro value shown
    obtain ⟨object, there, rfl⟩ := List.mem_map.1 shown
    exact (mem_readableObjects.1 (perm.mem_iff.1 there)).2
  rw [read, List.length_filterMap_eq_countP, List.countP_eq_length.2 readable, List.length_map,
    perm.length_eq]

/-- A graph that has the readable values of another one and is read the same has no more. -/
theorem mem_of_scalarValues_eq
    (more : ∀ object, (scalar.read? object).isSome = true →
      ⟨node, property, object⟩ ∈ copy → ⟨node, property, object⟩ ∈ graph)
    (same : scalarValues graph node property scalar = scalarValues copy node property scalar)
    {object : Term} (readable : (scalar.read? object).isSome = true)
    (there : ⟨node, property, object⟩ ∈ graph) : ⟨node, property, object⟩ ∈ copy := by
  have part : readableObjects copy node property scalar ⊆
      readableObjects graph node property scalar := by
    intro o ho
    obtain ⟨there, readable⟩ := mem_readableObjects.1 ho
    exact mem_readableObjects.2 ⟨more o readable there, readable⟩
  have length : (readableObjects graph node property scalar).length =
      (readableObjects copy node property scalar).length := by
    rw [← length_scalarValues, ← length_scalarValues, same]
  have perm := (List.subperm_of_subset nodup_readableObjects part).perm_of_length_le
    (Nat.le_of_eq length)
  exact (mem_readableObjects.1 (perm.mem_iff.2 (mem_readableObjects.2 ⟨there, readable⟩))).1

end Graphs

end LinkedShapes.Resolution
