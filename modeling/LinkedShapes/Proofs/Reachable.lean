import LinkedShapes.Proofs.Traversal

/-!
# What is found says the same

A traversal that starts at an entity lists the triples about the nodes that the entity reaches. These
nodes lead to each other only, so that a graph of the triples that were found says of them what the
whole graph says.

## Main statements

* `sameAbout_reachable`: a graph of the triples that were found says the same about these nodes.
-/

namespace LinkedShapes.Rdf.Graph

variable {graph copy : Graph} {node entity : Node} {nodes : List Node} {predicate cls : String}

/-! ### Triples about nodes -/

theorem values_eq_filter :
    graph.values node predicate = (graph.about node).filter (·.predicate = predicate) := by
  rw [about_eq_filter, List.filter_filter, values, find_eq_filter]
  refine List.filter_congr fun t _ => ?_
  simp [Pattern.matchesTriple, Bool.and_comm]

theorem isInstance_iff_mem_about :
    graph.isInstance node cls = true ↔ typing node cls ∈ graph.about node := by
  rw [isInstance_eq_true_iff, mem_about, typing]
  simp

/-- Two graphs say the same about some nodes, which lead to each other only. -/
structure SameAbout (graph copy : Graph) (nodes : List Node) : Prop where
  /-- The triples about the nodes are the same, in the same order. -/
  about : ∀ node ∈ nodes, copy.about node = graph.about node
  /-- The nodes lead to each other only. -/
  closed : ∀ node ∈ nodes, ∀ object ∈ objectNodes (graph.about node), object ∈ nodes

theorem SameAbout.values (same : graph.SameAbout copy nodes) (h : node ∈ nodes) :
    copy.values node predicate = graph.values node predicate := by
  rw [values_eq_filter, values_eq_filter, same.about node h]

theorem SameAbout.isInstance (same : graph.SameAbout copy nodes) (h : node ∈ nodes) :
    copy.isInstance node cls = graph.isInstance node cls := by
  rw [Bool.eq_iff_iff, isInstance_iff_mem_about, isInstance_iff_mem_about, same.about node h]

/-! ### Copying what was found -/

theorem triples_addAll {triples : List Triple} (nodup : (graph.triples ++ triples).Nodup) :
    (graph.addAll triples).triples = graph.triples ++ triples := by
  induction triples generalizing graph with
  | nil => rw [List.append_nil, addAll, List.foldl_nil]
  | cons t ts ih =>
    have split : graph.triples ++ t :: ts = (graph.triples ++ [t]) ++ ts := by simp
    have new : t ∉ graph.triples := fun h =>
      (List.nodup_append.1 nodup).2.2 t h t List.mem_cons_self rfl
    have added : (graph.add t).triples = graph.triples ++ [t] := by rw [add, dif_neg new]
    have rest : ((graph.add t).addAll ts).triples = (graph.add t).triples ++ ts := by
      apply ih
      rw [added, ← split]
      exact nodup
    rw [split, ← added]
    exact rest

/-- A graph that is made of a list without repetition lists its triples in the same order. -/
theorem triples_ofList {triples : List Triple} (nodup : triples.Nodup) :
    (ofList triples).triples = triples := by
  have filled : (empty.triples ++ triples).Nodup := nodup
  exact triples_addAll filled

theorem filter_about {other : Node} :
    (graph.about other).filter (·.subject = node) =
      if other = node then graph.about node else [] := by
  rw [about_eq_filter, List.filter_filter]
  split
  · rename_i same
    rw [about_eq_filter]
    refine List.filter_congr fun t _ => ?_
    simp [same]
  · rename_i different
    rw [List.filter_eq_nil_iff]
    intro t _ h
    simp only [Bool.and_eq_true, decide_eq_true_eq] at h
    exact different (h.2.symm.trans h.1)

/-- Of the triples about some nodes, each node once, those about one of them. -/
theorem filter_flatMap_about (nodup : nodes.Nodup) :
    (nodes.flatMap graph.about).filter (·.subject = node) =
      if node ∈ nodes then graph.about node else [] := by
  induction nodes with
  | nil => rfl
  | cons first rest ih =>
    obtain ⟨new, nodup⟩ := List.nodup_cons.1 nodup
    rw [List.flatMap_cons, List.filter_append, filter_about, ih nodup]
    by_cases same : first = node
    · subst same
      simp [new]
    · simp [same, Ne.symm same]

/-- A graph made of the triples about an entity and of those that can be reached from it says the
same as the graph about all these nodes. -/
theorem sameAbout_reachable (graph : Graph) (entity : Node) :
    ∃ nodes, entity ∈ nodes ∧
      graph.SameAbout (ofList (graph.about entity ++ graph.reachable entity)) nodes := by
  obtain ⟨order, listed, reached⟩ := reachable_eq_flatMap graph entity
  refine ⟨entity :: order, List.mem_cons_self, ?_, ?_⟩
  · intro n hn
    rw [about_eq_filter, listed, ← List.flatMap_cons,
      triples_ofList (nodup_flatMap_about reached.nodup), filter_flatMap_about reached.nodup,
      if_pos hn]
  · intro n hn m hm
    have reaches : graph.Reaches entity n := (reached.mem_iff n).1 hn
    exact (reached.mem_iff m).2 (reaches.tail (mem_objectNodes_about.1 hm))

end LinkedShapes.Rdf.Graph
