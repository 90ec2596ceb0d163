import LinkedShapes.Rdf.Term
import LinkedShapes.Rdf.Text
import LinkedShapes.Rdf.Vocabulary

/-!
# Graphs

A graph is a set of triples. It is kept as a list without repetition, in the order in which its
triples came, and looked at through membership: each operation has one lemma that says which
triples are in its result. A look-up starts from the parts of the triple that are given, as an index
on them would; whatever the parts are, it comes to filtering the triples.

## Main statements

* `mem_add`, `mem_remove`, `mem_merge`, `mem_ofList`, `mem_patch`: the triples of each result.
* `find_eq_filter`: a look-up gives the triples that match, whichever way it takes.
* `mem_find`, `nodup_find`: it gives the matching triples, each once.
* `size_eq_length_find`: the size of a graph is the number of its triples.
-/

namespace LinkedShapes.Rdf

/-- A set of triples. -/
structure Graph where
  /-- The triples in the order in which they came. -/
  triples : List Triple
  /-- No triple is listed twice. -/
  nodup : triples.Nodup
  deriving DecidableEq

namespace Graph

instance : Membership Triple Graph where
  mem graph triple := triple ∈ graph.triples

instance (triple : Triple) (graph : Graph) : Decidable (triple ∈ graph) :=
  inferInstanceAs (Decidable (triple ∈ graph.triples))

theorem mem_def {triple : Triple} {graph : Graph} : triple ∈ graph ↔ triple ∈ graph.triples :=
  Iff.rfl

/-- The graph without triples. -/
def empty : Graph := ⟨[], List.nodup_nil⟩

instance : Inhabited Graph := ⟨empty⟩

instance : EmptyCollection Graph := ⟨empty⟩

@[simp]
theorem not_mem_empty (triple : Triple) : triple ∉ empty := by
  simp [mem_def, empty]

/-- Whether the graph holds a triple. -/
def contains (graph : Graph) (triple : Triple) : Bool := decide (triple ∈ graph)

@[simp]
theorem contains_eq_true_iff {graph : Graph} {triple : Triple} :
    graph.contains triple = true ↔ triple ∈ graph := by
  simp [contains]

/-- The number of triples. -/
def size (graph : Graph) : Nat := graph.triples.length

/-- Whether the graph has no triple. -/
def isEmpty (graph : Graph) : Bool := graph.triples.isEmpty

theorem isEmpty_eq_true_iff {graph : Graph} : graph.isEmpty = true ↔ graph.size = 0 := by
  simp [isEmpty, size]

/-- The graph with one triple more. -/
def add (graph : Graph) (triple : Triple) : Graph :=
  if h : triple ∈ graph.triples then graph
  else ⟨graph.triples ++ [triple], by
    refine List.nodup_append.2 ⟨graph.nodup, by simp, ?_⟩
    intro a ha b hb hab
    rw [List.mem_singleton] at hb
    exact h (hb ▸ hab ▸ ha)⟩

@[simp]
theorem mem_add {graph : Graph} {added triple : Triple} :
    triple ∈ graph.add added ↔ triple ∈ graph ∨ triple = added := by
  unfold add
  split
  · rename_i h
    constructor
    · exact Or.inl
    · rintro (h' | rfl)
      · exact h'
      · exact h
  · simp [mem_def]

/-- The graph without a triple. -/
def remove (graph : Graph) (triple : Triple) : Graph :=
  ⟨graph.triples.filter fun t => t ≠ triple, graph.nodup.filter _⟩

@[simp]
theorem mem_remove {graph : Graph} {removed triple : Triple} :
    triple ∈ graph.remove removed ↔ triple ∈ graph ∧ triple ≠ removed := by
  simp [remove, mem_def]

/-- The graph with the triples of a list added. -/
def addAll (graph : Graph) (triples : List Triple) : Graph :=
  triples.foldl add graph

@[simp]
theorem mem_addAll {graph : Graph} {triples : List Triple} {triple : Triple} :
    triple ∈ graph.addAll triples ↔ triple ∈ graph ∨ triple ∈ triples := by
  induction triples generalizing graph with
  | nil => simp [addAll]
  | cons t ts ih =>
    have : graph.addAll (t :: ts) = (graph.add t).addAll ts := rfl
    rw [this, ih, mem_add, List.mem_cons, or_assoc]

/-- The graph with the triples of a list removed. -/
def removeAll (graph : Graph) (triples : List Triple) : Graph :=
  triples.foldl remove graph

@[simp]
theorem mem_removeAll {graph : Graph} {triples : List Triple} {triple : Triple} :
    triple ∈ graph.removeAll triples ↔ triple ∈ graph ∧ triple ∉ triples := by
  induction triples generalizing graph with
  | nil => simp [removeAll]
  | cons t ts ih =>
    have : graph.removeAll (t :: ts) = (graph.remove t).removeAll ts := rfl
    rw [this, ih, mem_remove, List.mem_cons, not_or, and_assoc]

/-- The graph of the triples of a list. -/
def ofList (triples : List Triple) : Graph := empty.addAll triples

@[simp]
theorem mem_ofList {triples : List Triple} {triple : Triple} :
    triple ∈ ofList triples ↔ triple ∈ triples := by
  simp [ofList]

/-- The union of two graphs. -/
def merge (graph other : Graph) : Graph := graph.addAll other.triples

@[simp]
theorem mem_merge {graph other : Graph} {triple : Triple} :
    triple ∈ graph.merge other ↔ triple ∈ graph ∨ triple ∈ other := by
  simp only [merge, mem_addAll]
  rfl

/-- The graph with some triples removed, then others added. -/
def patch (graph : Graph) (inserts deletes : List Triple) : Graph :=
  (graph.removeAll deletes).addAll inserts

@[simp]
theorem mem_patch {graph : Graph} {inserts deletes : List Triple} {triple : Triple} :
    triple ∈ graph.patch inserts deletes ↔
      (triple ∈ graph ∧ triple ∉ deletes) ∨ triple ∈ inserts := by
  simp [patch]

/-- A triple with any of its three parts left open. -/
structure Pattern where
  /-- The subject, if it is given. -/
  subject : Option Node
  /-- The predicate, if it is given. -/
  predicate : Option String
  /-- The object, if it is given. -/
  object : Option Term
  deriving DecidableEq

/-- Whether a triple has the parts that the pattern gives. -/
def Pattern.matchesTriple (pattern : Pattern) (triple : Triple) : Bool :=
  pattern.subject.all (triple.subject = ·) && pattern.predicate.all (triple.predicate = ·) &&
    pattern.object.all (triple.object = ·)

theorem Pattern.matchesTriple_iff {pattern : Pattern} {triple : Triple} :
    pattern.matchesTriple triple = true ↔
      (∀ s, pattern.subject = some s → triple.subject = s) ∧
      (∀ p, pattern.predicate = some p → triple.predicate = p) ∧
      (∀ o, pattern.object = some o → triple.object = o) := by
  rcases pattern with ⟨s, p, o⟩
  cases s <;> cases p <;> cases o <;> simp [matchesTriple, and_assoc]

/-- The triples with a subject. -/
def withSubject (graph : Graph) (subject : Node) : List Triple :=
  graph.triples.filter (·.subject = subject)

/-- The triples with a predicate. -/
def withPredicate (graph : Graph) (predicate : String) : List Triple :=
  graph.triples.filter (·.predicate = predicate)

/-- The triples with an object. -/
def withObject (graph : Graph) (object : Term) : List Triple :=
  graph.triples.filter (·.object = object)

/-- The subjects of the triples with a predicate and an object. -/
def subjectsWith (graph : Graph) (predicate : String) (object : Term) : List Node :=
  (graph.triples.filter fun t => t.predicate = predicate && t.object = object).map Triple.subject

/-- The triples that match a pattern, each once: those of the subject that match, if there is a
subject, or else those of the other parts that are given. -/
def find (graph : Graph) (pattern : Pattern) : List Triple :=
  match pattern with
  | ⟨some s, _, _⟩ => (graph.withSubject s).filter pattern.matchesTriple
  | ⟨none, some p, some o⟩ => (graph.subjectsWith p o).map fun s => ⟨s, p, o⟩
  | ⟨none, some p, none⟩ => graph.withPredicate p
  | ⟨none, none, some o⟩ => graph.withObject o
  | ⟨none, none, none⟩ => graph.triples

/-- The subjects of a predicate and an object stand for the triples that have both. -/
theorem map_subjectsWith (graph : Graph) (predicate : String) (object : Term) :
    (graph.subjectsWith predicate object).map (fun s => (⟨s, predicate, object⟩ : Triple)) =
      graph.triples.filter fun t => t.predicate = predicate && t.object = object := by
  rw [subjectsWith, List.map_map]
  refine (List.map_congr_left fun t mem => ?_).trans (List.map_id _)
  obtain ⟨-, has⟩ := List.mem_filter.1 mem
  rw [Bool.and_eq_true, decide_eq_true_eq, decide_eq_true_eq] at has
  obtain ⟨rfl, rfl⟩ := has
  rfl

/-- Every way of looking up gives the triples that match, in their order. -/
theorem find_eq_filter (graph : Graph) (pattern : Pattern) :
    graph.find pattern = graph.triples.filter pattern.matchesTriple := by
  rcases pattern with ⟨_ | s, p, o⟩
  case some =>
    rw [find, withSubject, List.filter_filter]
    refine List.filter_congr fun t _ => ?_
    by_cases same : t.subject = s <;> simp [Pattern.matchesTriple, same]
  case none =>
    cases p <;> cases o
    case none.none => exact (List.filter_eq_self.2 fun t _ => rfl).symm
    case none.some => exact List.filter_congr fun t _ => by simp [Pattern.matchesTriple]
    case some.none => exact List.filter_congr fun t _ => by simp [Pattern.matchesTriple]
    case some.some p o =>
      refine (map_subjectsWith graph p o).trans (List.filter_congr fun t _ => ?_)
      simp [Pattern.matchesTriple]

@[simp]
theorem mem_find {graph : Graph} {pattern : Pattern} {triple : Triple} :
    triple ∈ graph.find pattern ↔ triple ∈ graph ∧ pattern.matchesTriple triple = true := by
  rw [find_eq_filter, List.mem_filter, mem_def]

theorem nodup_find (graph : Graph) (pattern : Pattern) : (graph.find pattern).Nodup := by
  rw [find_eq_filter]
  exact graph.nodup.filter _

/-- The look-up of one triple finds it, and nothing else, if it is there. -/
theorem find_eq_singleton_iff {graph : Graph} {triple : Triple} :
    graph.find ⟨some triple.subject, some triple.predicate, some triple.object⟩ = [triple] ↔
      triple ∈ graph := by
  constructor
  · intro found
    have mem : triple ∈ [triple] := List.mem_singleton_self triple
    rw [← found] at mem
    exact (mem_find.1 mem).1
  · intro mem
    refine List.perm_singleton.1 ((List.perm_ext_iff_of_nodup (graph.nodup_find _)
      (List.pairwise_singleton _ _)).2 fun other => ?_)
    rw [mem_find, Pattern.matchesTriple_iff, List.mem_singleton]
    constructor
    · rintro ⟨-, subject, predicate, object⟩
      cases other
      cases triple
      simp_all
    · rintro rfl
      exact ⟨mem, by simp⟩

/-- The number of triples is the length of the look-up that leaves everything open. -/
theorem size_eq_length_find (graph : Graph) :
    graph.size = (graph.find ⟨none, none, none⟩).length := rfl

/-- The triples about a subject. -/
def about (graph : Graph) (subject : Node) : List Triple :=
  graph.find ⟨some subject, none, none⟩

/-- The triples that give a subject a value of a predicate. -/
def values (graph : Graph) (subject : Node) (predicate : String) : List Triple :=
  graph.find ⟨some subject, some predicate, none⟩

@[simp]
theorem mem_about {graph : Graph} {subject : Node} {triple : Triple} :
    triple ∈ graph.about subject ↔ triple ∈ graph ∧ triple.subject = subject := by
  simp [about, Pattern.matchesTriple]

theorem about_eq_filter {graph : Graph} {subject : Node} :
    graph.about subject = graph.triples.filter (·.subject = subject) := by
  rw [about, find_eq_filter]
  refine List.filter_congr fun t _ => ?_
  simp [Pattern.matchesTriple]

@[simp]
theorem mem_values {graph : Graph} {subject : Node} {predicate : String} {triple : Triple} :
    triple ∈ graph.values subject predicate ↔
      triple ∈ graph ∧ triple.subject = subject ∧ triple.predicate = predicate := by
  simp [values, Pattern.matchesTriple]

/-- The triple that states the class of a node. -/
def typing (node : Node) (cls : String) : Triple := ⟨node, RdfSyntax.type, .iri cls⟩

/-- Whether a node is stated to be of a class. -/
def isInstance (graph : Graph) (node : Node) (cls : String) : Bool :=
  graph.contains (typing node cls)

@[simp]
theorem isInstance_eq_true_iff {graph : Graph} {node : Node} {cls : String} :
    graph.isInstance node cls = true ↔ typing node cls ∈ graph := by
  simp [isInstance]

/-- The nodes stated to be of a class. -/
def instances (graph : Graph) (cls : String) : List Node :=
  (graph.find ⟨none, some RdfSyntax.type, some (.iri cls)⟩).map Triple.subject

@[simp]
theorem mem_instances {graph : Graph} {node : Node} {cls : String} :
    node ∈ graph.instances cls ↔ typing node cls ∈ graph := by
  simp only [instances, List.mem_map, mem_find, Pattern.matchesTriple, typing]
  constructor
  · rintro ⟨⟨s, p, o⟩, ⟨h, hm⟩, rfl⟩
    simp at hm
    obtain ⟨rfl, rfl⟩ := hm
    exact h
  · intro h
    exact ⟨_, ⟨h, by simp⟩, rfl⟩

/-- No node is listed twice. -/
theorem nodup_instances (graph : Graph) (cls : String) : (graph.instances cls).Nodup := by
  have stated (triple : Triple)
      (h : triple ∈ graph.find ⟨none, some RdfSyntax.type, some (.iri cls)⟩) :
      triple = typing triple.subject cls := by
    obtain ⟨-, hp, ho⟩ := Pattern.matchesTriple_iff.1 (mem_find.1 h).2
    rw [typing, ← hp _ rfl, ← ho _ rfl]
  refine List.pairwise_map.2 ((graph.nodup_find _).imp_of_mem ?_)
  intro a b ha hb hne hs
  exact hne (by rw [stated a ha, stated b hb, hs])

/-- The graph as an N-Triples document. -/
def text (graph : Graph) : String :=
  String.join (graph.triples.map Triple.line)

end Graph

end LinkedShapes.Rdf
