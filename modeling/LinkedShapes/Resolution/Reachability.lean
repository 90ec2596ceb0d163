import LinkedShapes.Rdf.Graph

/-!
# Reachability

The triples that can be reached from a node by following triples from their subjects to their
objects.
-/

namespace LinkedShapes.Rdf.Graph

/-- The nodes that some triples lead to. -/
def objectNodes (triples : List Triple) : List Node :=
  triples.filterMap fun t => t.object.node?

/-- Visits the pending nodes and all that they lead to, each node once, and lists the triples about
them. Each step takes a pending node; a node adds as many pending nodes as it has triples, and only
when it is visited, so there are no more steps than pending nodes at the start and triples. -/
def visit (graph : Graph) : Nat → List Node → List Node → List Triple
  | 0, _, _ => []
  | _ + 1, _, [] => []
  | fuel + 1, visited, node :: pending =>
    if node ∈ visited then visit graph fuel visited pending
    else
      let triples := graph.about node
      triples ++ visit graph fuel (node :: visited) (objectNodes triples ++ pending)

/-- The triples about the nodes that can be reached from an entity, those about the entity itself
left out. -/
def reachable (graph : Graph) (entity : Node) : List Triple :=
  let start := objectNodes (graph.about entity)
  visit graph (start.length + graph.size + 1) [entity] start

end LinkedShapes.Rdf.Graph
