import LinkedShapes.Rdf.Graph

/-!
# Graphs and their histories

A graph is made from the empty graph by edits, of one triple or of many. An edit stands for changes,
each of which adds or removes one triple, and the changes of all edits, one after the other, are the log
of the graph. The log alone says what the graph holds: a triple is there if the last change of it is
that it was added. Each edit keeps graph and log together in this way, so that every look-up, with any
parts of the triple left open, answers what the log says.

## Main statements

* `Graph.Follows.edit`: an edit keeps a graph and its log together.
* `Graph.follows_ofEdits`: any edits do.
* `Graph.ofEdits_answers`: what a graph answers after any edits.
-/

namespace LinkedShapes.Rdf

/-! ### Logs -/

/-- What is done to one triple of a graph. -/
inductive Change where
  /-- The triple is added, whether it is there or not. -/
  | added (triple : Triple)
  /-- The triple is removed, whether it is there or not. -/
  | removed (triple : Triple)
  deriving DecidableEq

/-- The triple that is changed. -/
def Change.triple : Change → Triple
  | .added triple => triple
  | .removed triple => triple

variable {graph : Graph} {triple : Triple} {log : List Change} {change : Change}

/-- The last change of a triple, if there is one. -/
def Change.last? (log : List Change) (triple : Triple) : Option Change :=
  log.reverse.find? (·.triple = triple)

@[simp]
theorem Change.last?_append_singleton :
    Change.last? (log ++ [change]) triple =
      if change.triple = triple then some change else Change.last? log triple := by
  by_cases same : change.triple = triple <;> simp [Change.last?, same]

/-! ### Edits -/

/-- What is done to a graph. -/
inductive Edit where
  /-- A triple is added. -/
  | add (triple : Triple)
  /-- A triple is removed. -/
  | remove (triple : Triple)
  /-- The triples of a list are added. -/
  | extend (triples : List Triple)
  /-- The triples of another graph are added. -/
  | merge (other : Graph)
  /-- The triples of a list are collected in a new graph. -/
  | collect (triples : List Triple)
  /-- Some triples are removed, then others are added. -/
  | apply (inserts deletes : List Triple)

/-- The graph after an edit. -/
def Edit.perform (graph : Graph) : Edit → Graph
  | .add triple => graph.add triple
  | .remove triple => graph.remove triple
  | .extend triples => graph.addAll triples
  | .merge other => graph.merge other
  | .collect triples => Graph.ofList triples
  | .apply inserts deletes => graph.patch inserts deletes

/-- The log after an edit; a new graph has a new log. -/
def Edit.record (log : List Change) : Edit → List Change
  | .add triple => log ++ [.added triple]
  | .remove triple => log ++ [.removed triple]
  | .extend triples => log ++ triples.map .added
  | .merge other => log ++ other.triples.map .added
  | .collect triples => triples.map .added
  | .apply inserts deletes => log ++ deletes.map .removed ++ inserts.map .added

/-- The graph that is made from the empty graph by some edits. -/
def Graph.ofEdits (edits : List Edit) : Graph := edits.foldl Edit.perform Graph.empty

/-- The log of the graph that is made by some edits. -/
def Edit.logOf (edits : List Edit) : List Change := edits.foldl Edit.record []

/-! ### Graph and log -/

namespace Graph

/-- A graph follows a log: it holds the triples whose last change is that they were added. -/
def Follows (graph : Graph) (log : List Change) : Prop :=
  ∀ triple, triple ∈ graph ↔ Change.last? log triple = some (.added triple)

theorem follows_empty : empty.Follows [] := by
  intro triple
  simp [Change.last?]

theorem Follows.add (follows : graph.Follows log) (triple : Triple) :
    (graph.add triple).Follows (log ++ [.added triple]) := by
  intro other
  rw [mem_add, Change.last?_append_singleton, follows other]
  by_cases same : triple = other
  · simp [Change.triple, same]
  · simp [Change.triple, same, Ne.symm same]

theorem Follows.remove (follows : graph.Follows log) (triple : Triple) :
    (graph.remove triple).Follows (log ++ [.removed triple]) := by
  intro other
  rw [mem_remove, Change.last?_append_singleton, follows other]
  by_cases same : triple = other
  · simp [Change.triple, same]
  · simp [Change.triple, same, Ne.symm same]

/-- One change after the other is made of the triples of a list. -/
theorem Follows.foldl {step : Graph → Triple → Graph} {change : Triple → Change}
    (one : ∀ {graph log}, graph.Follows log → ∀ triple,
      (step graph triple).Follows (log ++ [change triple]))
    (follows : graph.Follows log) (triples : List Triple) :
    (triples.foldl step graph).Follows (log ++ triples.map change) := by
  induction triples generalizing graph log with
  | nil => simpa using follows
  | cons first rest ih =>
    have split : log ++ (first :: rest).map change = log ++ [change first] ++ rest.map change := by
      simp
    rw [split]
    exact ih (one follows first)

theorem Follows.addAll (follows : graph.Follows log) (triples : List Triple) :
    (graph.addAll triples).Follows (log ++ triples.map .added) :=
  Follows.foldl Follows.add follows triples

theorem Follows.removeAll (follows : graph.Follows log) (triples : List Triple) :
    (graph.removeAll triples).Follows (log ++ triples.map .removed) :=
  Follows.foldl Follows.remove follows triples

/-- An edit keeps a graph and its log together. -/
theorem Follows.edit (follows : graph.Follows log) (edit : Edit) :
    (edit.perform graph).Follows (edit.record log) := by
  cases edit with
  | add triple => exact follows.add triple
  | remove triple => exact follows.remove triple
  | extend triples => exact follows.addAll triples
  | merge other => exact follows.addAll other.triples
  | collect triples => exact follows_empty.addAll triples
  | apply inserts deletes => exact (follows.removeAll deletes).addAll inserts

/-- A graph that is made by some edits follows their log. -/
theorem follows_ofEdits (edits : List Edit) : (ofEdits edits).Follows (Edit.logOf edits) := by
  -- The edits that are left may start from any graph and its log.
  have go (graph : Graph) (log : List Change) (follows : graph.Follows log) :
      (edits.foldl Edit.perform graph).Follows (edits.foldl Edit.record log) := by
    induction edits generalizing graph log with
    | nil => exact follows
    | cons first rest ih => exact ih _ _ (follows.edit first)
  exact go empty [] follows_empty

/-! ### Answers -/

/-- The graph answers as its log says. -/
structure Answers (graph : Graph) (log : List Change) : Prop where
  /-- A look-up finds nothing twice. -/
  nodup_find : ∀ pattern, (graph.find pattern).Nodup
  /-- It finds the triples that have the given parts and whose last change is that they were added. -/
  mem_find_iff : ∀ subject predicate object triple,
    triple ∈ graph.find ⟨subject, predicate, object⟩ ↔
      (∀ s, subject = some s → triple.subject = s) ∧
      (∀ p, predicate = some p → triple.predicate = p) ∧
      (∀ o, object = some o → triple.object = o) ∧
      Change.last? log triple = some (.added triple)
  /-- The graph contains a triple if a look-up that the triple matches finds it. -/
  contains_iff : ∀ pattern triple, pattern.matchesTriple triple = true →
    (graph.contains triple = true ↔ triple ∈ graph.find pattern)
  /-- A node is an instance of a class if the look-up of its typing finds this triple. -/
  isInstance_iff : ∀ node cls, graph.isInstance node cls = true ↔
    graph.find ⟨some node, some RdfSyntax.type, some (.iri cls)⟩ = [typing node cls]
  /-- The size of the graph is the number of triples that the look-up with all parts left open
  finds. -/
  size_eq : graph.size = (graph.find ⟨none, none, none⟩).length
  /-- The graph is empty if this look-up finds nothing. -/
  isEmpty_iff : graph.isEmpty = true ↔ graph.find ⟨none, none, none⟩ = []

/-- After any edits of the empty graph, a look-up with any parts of the triple left open finds, each
once, the matching triples whose last change is that they were added, and the other questions to the
graph are answered as this look-up says. -/
theorem ofEdits_answers (edits : List Edit) : (ofEdits edits).Answers (Edit.logOf edits) := by
  constructor
  case nodup_find => exact (ofEdits edits).nodup_find
  case mem_find_iff =>
    intro subject predicate object triple
    rw [mem_find, Pattern.matchesTriple_iff, follows_ofEdits edits triple, and_comm]
    simp only [and_assoc]
  case contains_iff =>
    intro pattern triple fits
    rw [contains_eq_true_iff, mem_find]
    simp [fits]
  case isInstance_iff =>
    intro node cls
    rw [isInstance_eq_true_iff]
    exact find_eq_singleton_iff.symm
  case size_eq => exact (ofEdits edits).size_eq_length_find
  case isEmpty_iff =>
    rw [isEmpty_eq_true_iff, (ofEdits edits).size_eq_length_find, List.length_eq_zero_iff]

end Graph

end LinkedShapes.Rdf
