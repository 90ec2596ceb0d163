import LinkedShapes.Resolution.Reachability
import Mathlib.Data.List.Nodup
import Mathlib.Logic.Relation

/-!
# What a traversal finds

A traversal knows the nodes that it visited, the nodes that are pending and the triples that it found.
Each round takes a pending node. A node that was visited is passed over; another one is visited, the
triples about it are found, and the nodes that they lead to are pending then. The round is a relation
here: any of the pending nodes may be taken, so that what is shown does not depend on their order.

A round takes away a pending node, or visits a node for the first time and adds at most as many pending
nodes as there are triples about it, so that pending nodes and triples about nodes not yet visited grow
fewer together. All along, the visited nodes can be reached from the entity that the traversal starts
at, and lead to visited and pending nodes only. So when no node is pending any more, the visited nodes
are all that can be reached.

## Main statements

* `Traversal.wellFounded_round`: every traversal ends.
* `Explores.run`: what holds all along.
* `exists_run_reachable`: the triples that can be reached are what a traversal finds.
* `reachable_eq_flatMap`: they are the triples about the nodes that can be reached, each node once.
* `reachable_closure`: what every traversal finds, whatever the order of its rounds.
-/

namespace LinkedShapes.Rdf

open Relation

variable {graph : Graph} {entity node next : Node} {visited pending order : List Node}
  {found : List Triple}

/-! ### Links between nodes -/

namespace Graph

/-- A triple about a node leads to another node. -/
def Leads (graph : Graph) (node next : Node) : Prop :=
  ∃ predicate, ⟨node, predicate, .node next⟩ ∈ graph

/-- Triples lead from a node to another one, one after the other. -/
abbrev Reaches (graph : Graph) : Node → Node → Prop := ReflTransGen graph.Leads

theorem mem_objectNodes_about : next ∈ objectNodes (graph.about node) ↔ graph.Leads node next := by
  simp only [objectNodes, List.mem_filterMap, mem_about, Term.node?_eq_some_iff, Leads]
  constructor
  · rintro ⟨⟨subject, predicate, object⟩, ⟨stated, rfl⟩, rfl⟩
    exact ⟨predicate, stated⟩
  · rintro ⟨predicate, stated⟩
    exact ⟨_, ⟨stated, rfl⟩, rfl⟩

end Graph

open Graph

/-! ### The rounds of a traversal -/

/-- Where a traversal stands. -/
structure Traversal where
  /-- The nodes that were visited, the last one first. -/
  visited : List Node
  /-- The nodes that are pending; a node may be there more than once. -/
  pending : List Node
  /-- The triples that were found. -/
  found : List Triple

namespace Traversal

variable {before : Traversal}

/-- The traversal that starts at an entity, which counts as visited. -/
def start (graph : Graph) (entity : Node) : Traversal :=
  ⟨[entity], objectNodes (graph.about entity), []⟩

/-- A round takes one of the pending nodes. -/
inductive Round (graph : Graph) : Traversal → Traversal → Prop where
  /-- A node that was visited is passed over. -/
  | skip {visited pending rest : List Node} {found : List Triple} {node : Node}
      (taken : pending.Perm (node :: rest)) (seen : node ∈ visited) :
      Round graph ⟨visited, pending, found⟩ ⟨visited, rest, found⟩
  /-- A node that was not visited is visited now. -/
  | visit {visited pending rest others : List Node} {found : List Triple} {node : Node}
      (taken : pending.Perm (node :: rest)) (unseen : node ∉ visited)
      (added : others.Perm (objectNodes (graph.about node) ++ rest)) :
      Round graph ⟨visited, pending, found⟩
        ⟨node :: visited, others, found ++ graph.about node⟩

/-- Any number of rounds. -/
abbrev Run (graph : Graph) : Traversal → Traversal → Prop := ReflTransGen (Round graph)

/-- There is a round as long as a node is pending. -/
theorem exists_round (left : before.pending ≠ []) : ∃ after, Round graph before after := by
  obtain ⟨visited, pending, found⟩ := before
  obtain ⟨node, rest, rfl⟩ := List.exists_cons_of_ne_nil left
  by_cases seen : node ∈ visited
  · exact ⟨_, .skip (.refl _) seen⟩
  · exact ⟨_, .visit (.refl _) seen (.refl _)⟩

end Traversal

/-! ### The end of a traversal -/

namespace Graph

/-- The triples about nodes that are not visited yet. -/
def unvisited (graph : Graph) (visited : List Node) : List Triple :=
  graph.triples.filter (·.subject ∉ visited)

/-- A first visit of a node takes the triples about it from those that are left. -/
theorem length_unvisited_cons (first : node ∉ visited) :
    (graph.unvisited (node :: visited)).length + (graph.about node).length =
      (graph.unvisited visited).length := by
  have others : graph.unvisited (node :: visited) =
      (graph.unvisited visited).filter fun t => !decide (t.subject = node) := by
    rw [unvisited, unvisited, List.filter_filter]
    refine List.filter_congr fun t _ => ?_
    simp
  have about : graph.about node = (graph.unvisited visited).filter (·.subject = node) := by
    rw [about_eq_filter, unvisited, List.filter_filter]
    refine List.filter_congr fun t _ => ?_
    by_cases h : t.subject = node
    · simp [h, first]
    · simp [h]
  rw [others, about, Nat.add_comm]
  exact (List.length_eq_length_filter_add fun t : Triple => decide (t.subject = node)).symm

theorem length_objectNodes_le (triples : List Triple) :
    (objectNodes triples).length ≤ triples.length :=
  List.length_filterMap_le _ _

end Graph

namespace Traversal

variable {before after : Traversal}

/-- How much is left of a traversal: the pending nodes and the triples about nodes not yet visited. -/
def left (graph : Graph) (traversal : Traversal) : Nat :=
  traversal.pending.length + (graph.unvisited traversal.visited).length

theorem Round.left_lt (round : Round graph before after) : after.left graph < before.left graph := by
  cases round with
  | skip taken seen =>
    have fewer := taken.length_eq
    simp only [left, List.length_cons] at fewer ⊢
    omega
  | @visit visited pending rest others found node taken unseen added =>
    have fewer := taken.length_eq
    have more := added.length_eq
    have linked := length_objectNodes_le (graph.about node)
    have first : (graph.unvisited (node :: visited)).length + (graph.about node).length =
        (graph.unvisited visited).length := length_unvisited_cons unseen
    simp only [left, List.length_cons, List.length_append] at fewer more ⊢
    omega

/-- Every traversal ends, wherever it stands. -/
theorem wellFounded_round (graph : Graph) :
    WellFounded fun after before => Round graph before after :=
  Subrelation.wf (fun round => round.left_lt) (measure (left graph)).wf

end Traversal

/-! ### What holds all along -/

namespace Graph

/-- A traversal that started at an entity explores what can be reached from it. -/
structure Explores (graph : Graph) (entity : Node) (traversal : Traversal) : Prop where
  /-- What was found are the triples about the nodes that were visited after the entity. -/
  listed : ∃ order : List Node, traversal.visited = order.reverse ++ [entity] ∧
    traversal.found = order.flatMap graph.about
  /-- No node is visited twice. -/
  nodup : traversal.visited.Nodup
  /-- The entity reaches the visited and the pending nodes. -/
  reached : ∀ node, node ∈ traversal.visited ∨ node ∈ traversal.pending → graph.Reaches entity node
  /-- A visited node leads to visited and pending nodes. -/
  closed : ∀ node ∈ traversal.visited, ∀ next, graph.Leads node next →
    next ∈ traversal.visited ∨ next ∈ traversal.pending

theorem explores_start (graph : Graph) (entity : Node) :
    graph.Explores entity (.start graph entity) := by
  constructor
  case listed => exact ⟨[], rfl, rfl⟩
  case nodup => exact List.nodup_singleton entity
  case reached =>
    rintro node (mem | mem)
    · rw [List.mem_singleton.1 mem]
    · exact .single (mem_objectNodes_about.1 mem)
  case closed =>
    intro node mem next leads
    rw [List.mem_singleton.1 mem] at leads
    exact Or.inr (mem_objectNodes_about.2 leads)

/-- A round goes on exploring. -/
theorem Explores.round {before after : Traversal} (explores : graph.Explores entity before)
    (round : Traversal.Round graph before after) : graph.Explores entity after := by
  obtain ⟨⟨order, visits, lists⟩, nodup, reached, closed⟩ := explores
  cases round with
  | @skip visited pending rest found node taken seen =>
    refine ⟨⟨order, visits, lists⟩, nodup, ?_, ?_⟩
    · intro n mem
      exact reached n (mem.imp_right fun mem => taken.mem_iff.2 (List.mem_cons_of_mem node mem))
    · intro n mem next leads
      rcases closed n mem next leads with mem | mem
      · exact Or.inl mem
      · rcases List.mem_cons.1 (taken.mem_iff.1 mem) with rfl | mem
        · exact Or.inl seen
        · exact Or.inr mem
  | @visit visited pending rest others found node taken unseen added =>
    have isPending (n : Node) (mem : n ∈ rest) : n ∈ others :=
      added.mem_iff.2 (List.mem_append_right _ mem)
    have here : graph.Reaches entity node :=
      reached node (Or.inr (taken.mem_iff.2 List.mem_cons_self))
    constructor
    case listed =>
      refine ⟨order ++ [node], ?_, ?_⟩
      · simp only at visits
        simp [visits]
      · simp only at lists
        simp [lists]
    case nodup => exact List.nodup_cons.2 ⟨unseen, nodup⟩
    case reached =>
      rintro n (mem | mem)
      · rcases List.mem_cons.1 mem with rfl | mem
        · exact here
        · exact reached n (Or.inl mem)
      · rcases List.mem_append.1 (added.mem_iff.1 mem) with mem | mem
        · exact here.tail (mem_objectNodes_about.1 mem)
        · exact reached n (Or.inr (taken.mem_iff.2 (List.mem_cons_of_mem node mem)))
    case closed =>
      intro n mem next leads
      rcases List.mem_cons.1 mem with rfl | mem
      · exact Or.inr (added.mem_iff.2 (List.mem_append_left _ (mem_objectNodes_about.2 leads)))
      · rcases closed n mem next leads with mem | mem
        · exact Or.inl (List.mem_cons_of_mem node mem)
        · rcases List.mem_cons.1 (taken.mem_iff.1 mem) with rfl | mem
          · exact Or.inl List.mem_cons_self
          · exact Or.inr (isPending next mem)

/-- Any number of rounds from the start explore. -/
theorem Explores.run {last : Traversal} (run : Traversal.Run graph (.start graph entity) last) :
    graph.Explores entity last := by
  induction run with
  | refl => exact explores_start graph entity
  | tail _ round ih => exact ih.round round

/-! ### What is found in the end -/

/-- These are the nodes that an entity reaches, each once, without the entity itself. -/
structure ReachedBy (graph : Graph) (entity : Node) (order : List Node) : Prop where
  /-- Each node is there once, and the entity is not. -/
  nodup : (entity :: order).Nodup
  /-- With the entity, these are the nodes that it reaches. -/
  mem_iff : ∀ node, node ∈ entity :: order ↔ graph.Reaches entity node

/-- When nothing is pending, all nodes that the entity reaches were visited. -/
theorem Explores.exists_order {last : Traversal} (explores : graph.Explores entity last)
    (done : last.pending = []) :
    ∃ order, last.found = order.flatMap graph.about ∧ graph.ReachedBy entity order := by
  obtain ⟨⟨order, visits, lists⟩, nodup, reached, closed⟩ := explores
  have mem_visited (n : Node) : n ∈ last.visited ↔ n ∈ entity :: order := by
    rw [visits, List.mem_append, List.mem_reverse, List.mem_singleton, List.mem_cons, or_comm]
  have stays (n next : Node) (mem : n ∈ last.visited) (leads : graph.Leads n next) :
      next ∈ last.visited := by
    refine (closed n mem next leads).resolve_right fun mem => ?_
    rw [done] at mem
    exact List.not_mem_nil mem
  refine ⟨order, lists, ?_, fun n => ?_⟩
  · rw [visits, ← List.reverse_cons, List.nodup_reverse] at nodup
    exact nodup
  · rw [← mem_visited]
    refine ⟨fun mem => reached n (Or.inl mem), fun reaches => ?_⟩
    induction reaches with
    | refl => exact (mem_visited entity).2 List.mem_cons_self
    | tail _ leads ih => exact stays _ _ ih leads

/-- A traversal with enough steps is a run that goes on until nothing is pending. -/
theorem exists_run_visit {fuel : Nat}
    (enough : Traversal.left graph ⟨visited, pending, found⟩ < fuel) :
    ∃ seen, Traversal.Run graph ⟨visited, pending, found⟩
      ⟨seen, [], found ++ graph.visit fuel visited pending⟩ := by
  induction fuel generalizing visited pending found with
  | zero => exact absurd enough (Nat.not_lt_zero _)
  | succ fuel ih =>
    -- A round leaves less to do, so that one step fewer is enough after it.
    have enough_after {after : Traversal}
        (round : Traversal.Round graph ⟨visited, pending, found⟩ after) :
        after.left graph < fuel :=
      Nat.lt_of_lt_of_le round.left_lt (Nat.le_of_lt_succ enough)
    cases pending with
    | nil =>
      refine ⟨visited, ?_⟩
      rw [visit, List.append_nil]
    | cons node rest =>
      by_cases seen : node ∈ visited
      · have round : Traversal.Round graph ⟨visited, node :: rest, found⟩ ⟨visited, rest, found⟩ :=
          .skip (.refl _) seen
        obtain ⟨all, run⟩ := ih (enough_after round)
        refine ⟨all, .head round ?_⟩
        rw [visit, if_pos seen]
        exact run
      · have round : Traversal.Round graph ⟨visited, node :: rest, found⟩
            ⟨node :: visited, objectNodes (graph.about node) ++ rest, found ++ graph.about node⟩ :=
          .visit (.refl _) seen (.refl _)
        obtain ⟨all, run⟩ := ih (enough_after round)
        refine ⟨all, .head round ?_⟩
        rw [visit, if_neg seen, ← List.append_assoc]
        exact run

/-- What can be reached from an entity is what a traversal that starts there finds. -/
theorem exists_run_reachable (graph : Graph) (entity : Node) :
    ∃ last, Traversal.Run graph (.start graph entity) last ∧ last.pending = [] ∧
      last.found = graph.reachable entity := by
  have fewer : (graph.unvisited [entity]).length ≤ graph.size := List.length_filter_le _ _
  have enough : (Traversal.start graph entity).left graph <
      (objectNodes (graph.about entity)).length + graph.size + 1 := by
    simp only [Traversal.left, Traversal.start]
    omega
  obtain ⟨seen, run⟩ := exists_run_visit enough
  exact ⟨_, run, rfl, List.nil_append _⟩

/-- What can be reached from an entity are the triples about the nodes that it reaches. -/
theorem reachable_eq_flatMap (graph : Graph) (entity : Node) :
    ∃ order, graph.reachable entity = order.flatMap graph.about ∧ graph.ReachedBy entity order := by
  obtain ⟨last, run, done, finds⟩ := exists_run_reachable graph entity
  rw [← finds]
  exact (Explores.run run).exists_order done

theorem nodup_flatMap_about (nodup : order.Nodup) : (order.flatMap graph.about).Nodup := by
  refine List.nodup_flatMap.2 ⟨fun n _ => graph.nodup_find _, nodup.imp fun different t h h' => ?_⟩
  exact different ((mem_about.1 h).2.symm.trans (mem_about.1 h').2)

/-- These are the triples about what an entity reaches, without those about the entity. -/
structure IsClosure (graph : Graph) (entity : Node) (found : List Triple) : Prop where
  /-- With the triples about the entity, these are the triples about all nodes that it reaches. -/
  mem_iff : ∀ triple, triple ∈ graph.about entity ++ found ↔
    triple ∈ graph ∧ graph.Reaches entity triple.subject
  /-- None of them is about the entity. -/
  apart : ∀ triple ∈ found, triple.subject ≠ entity
  /-- Each is there once. -/
  nodup : found.Nodup

theorem ReachedBy.isClosure (reached : graph.ReachedBy entity order) :
    graph.IsClosure entity (order.flatMap graph.about) := by
  obtain ⟨new, nodup⟩ := List.nodup_cons.1 reached.nodup
  constructor
  case mem_iff =>
    intro triple
    rw [← List.flatMap_cons, List.mem_flatMap]
    simp only [mem_about, reached.mem_iff]
    constructor
    · rintro ⟨n, reaches, stated, rfl⟩
      exact ⟨stated, reaches⟩
    · rintro ⟨stated, reaches⟩
      exact ⟨_, reaches, stated, rfl⟩
  case apart =>
    intro triple mem same
    obtain ⟨n, there, mem⟩ := List.mem_flatMap.1 mem
    rw [(mem_about.1 mem).2] at same
    exact new (same ▸ there)
  case nodup => exact nodup_flatMap_about nodup

/-- The triples that can be reached from an entity are the closure of its links: together with those
about the entity, they are all triples about the nodes that it reaches, each of them once. They are
what a traversal finds that starts at the entity. In whatever order pending nodes are taken, the
traversal ends, not before nothing is pending, and has found the closure then. -/
theorem reachable_closure (graph : Graph) (entity : Node) :
    graph.IsClosure entity (graph.reachable entity) ∧
      (∃ last, Traversal.Run graph (.start graph entity) last ∧ last.pending = [] ∧
        last.found = graph.reachable entity) ∧
      (WellFounded fun after before => Traversal.Round graph before after) ∧
      ∀ last, Traversal.Run graph (.start graph entity) last →
        (last.pending ≠ [] → ∃ after, Traversal.Round graph last after) ∧
        (last.pending = [] → graph.IsClosure entity last.found) := by
  have closes (last : Traversal) (run : Traversal.Run graph (.start graph entity) last)
      (done : last.pending = []) : graph.IsClosure entity last.found := by
    obtain ⟨order, finds, reached⟩ := (Explores.run run).exists_order done
    rw [finds]
    exact reached.isClosure
  obtain ⟨last, run, done, finds⟩ := exists_run_reachable graph entity
  refine ⟨finds ▸ closes last run done, ⟨last, run, done, finds⟩,
    Traversal.wellFounded_round graph, fun last run => ⟨Traversal.exists_round, closes last run⟩⟩

end Graph

end LinkedShapes.Rdf
