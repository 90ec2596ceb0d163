import LinkedShapes.Proofs.Minting
import LinkedShapes.Proofs.Store

/-!
# What the look-up of one entity finds

An entity that is named by an identifier is looked up where the instances of its class are kept, and,
if that is a container, in the document of its IRI, wherever this document is. It is found if the
resource at that URL states its class, and its fields are read from a copy of the triples there.

## Main statements

* `parseIdentifier_eq_ok_iff`: what an identifier names.
* `returns_lookUpInstance_iff`, `returns_lookUpInstance_some_iff`: when an entity is found, and what it is
  read from.
* `returns_instance_iff`: a field that asks for one entity is answered with what its look-up finds.
* `exists_lookUp_of_returns`: if it is answered, the IRI that the identifier names was looked up.
* `returns_instance_of_typing`: it is answered with an entity that is stated there.
-/

namespace LinkedShapes.Resolution

open Rdf Ldp Schema Attempt

/-! ### Identifiers -/

/-- A text that is given as an identifier is checked after it was made absolute. -/
theorem parseIdentifier_string (text name url : String) :
    parseIdentifier (.string text) name url = checkedIri (absolute text url) name := by
  unfold parseIdentifier identifierIri? checkedIri
  simp only [Json.string?, Option.map_some]
  cases Iri.checked (absolute text url) <;> rfl

/-- An identifier is a text, and names the IRI that the text is made absolute to. -/
theorem parseIdentifier_eq_ok_iff {value : Json} {name url iri : String} :
    parseIdentifier value name url = .ok iri ↔
      ∃ text, value = .string text ∧ absolute text url = iri ∧ Iri.isAbsolute iri = true := by
  cases value with
  | string text =>
    rw [parseIdentifier_string, checkedIri_eq_ok_iff]
    constructor
    · rintro ⟨rfl, isAbsolute⟩
      exact ⟨text, rfl, rfl, isAbsolute⟩
    · rintro ⟨_, same, rfl, isAbsolute⟩
      obtain rfl := Json.string.inj same
      exact ⟨rfl, isAbsolute⟩
  | _ => simp [parseIdentifier, identifierIri?, Json.string?]

/-- An absolute IRI that is given as an identifier names itself. -/
theorem parseIdentifier_of_isAbsolute {iri : String} (isAbsolute : Iri.isAbsolute iri = true)
    (name url : String) : parseIdentifier (.string iri) name url = .ok iri :=
  parseIdentifier_eq_ok_iff.2 ⟨iri, rfl, absolute_of_isAbsolute isAbsolute url, isAbsolute⟩

/-! ### Shared graphs -/

section Graphs

variable {σ : Type} {world after : World σ} {added : Graph}

/-- A graph that was made is read as it was made. -/
theorem World.graph_of_push (made : after.graphs = world.graphs.push added) :
    after.graph world.graphs.size = added := by
  rw [World.graph, made]
  simp [Array.getD_eq_getD_getElem?]

/-- Making a graph changes none that there is. -/
theorem World.graph_of_push_of_lt (made : after.graphs = world.graphs.push added) {ref : GraphRef}
    (there : ref < world.graphs.size) : after.graph ref = world.graph ref := by
  rw [World.graph, made, World.graph, Array.getD_eq_getD_getElem?, Array.getD_eq_getD_getElem?,
    Array.getElem?_push_lt there, Array.getElem?_eq_getElem there]

end Graphs

/-! ### Look-ups -/

/-- The URL that a node is looked up at: below a container it is the document of the node's IRI. -/
def lookUpUrl (kind : ResourceKind) (target : String) (node : Node) : String :=
  match kind, node with
  | .container, .iri text => documentUrl text
  | _, _ => target

section LookUps

variable {σ : Type} {client : Client σ} {cls target : String} {node : Node} {context : Context}

/-- A node is found if what is answered for the URL that it is looked up at states its class. Its context is
in a new graph, with the triples that were answered. -/
theorem returns_lookUpInstance_iff {world after : World σ} :
    (lookUpInstance cls target node).Returns client world (some context) after ↔
      ∃ kind graph, (client.kind target world.resources).1 = .ok kind ∧
        (client.download (lookUpUrl kind target node) (client.kind target world.resources).2).1 =
          .ok graph ∧
        Graph.typing node cls ∈ graph ∧
        context = { subject := some node, graph := world.graphs.size, kind := kind,
                    url := lookUpUrl kind target node } ∧
        after = { world with
          resources := (client.download (lookUpUrl kind target node)
            (client.kind target world.resources).2).2
          graphs := world.graphs.push graph } := by
  constructor
  · intro ran
    obtain ⟨kind, _, asked, ran⟩ := returns_bind.1 ran
    obtain ⟨isKind, rfl⟩ := returns_kind.1 asked
    obtain ⟨answer, between, downloaded, ran⟩ := returns_bind.1 ran
    have downloaded : (askDownload (lookUpUrl kind target node)).Returns client _ answer
      between := downloaded
    obtain ⟨answered, rfl⟩ := returns_askDownload.1 downloaded
    cases answer with
    | error failure =>
      dsimp only at ran
      split at ran
      · cases (returns_pure.1 ran).1
      · exact absurd ran not_returns_throw
    | ok graph =>
      dsimp only at ran
      split at ran
      · rename_i isInstance
        obtain ⟨ref, _, made, ran⟩ := returns_bind.1 ran
        obtain ⟨rfl, rfl⟩ := returns_newGraph.1 made
        obtain ⟨found, rfl⟩ := returns_pure.1 ran
        exact ⟨kind, graph, isKind, answered, Graph.isInstance_eq_true_iff.1 isInstance,
          (Option.some.inj found).symm, rfl⟩
      · cases (returns_pure.1 ran).1
  · rintro ⟨kind, graph, isKind, answered, typed, rfl, rfl⟩
    refine (returns_bind_of_returns (returns_kind.2 ⟨isKind, rfl⟩)).2 ?_
    refine (returns_bind_of_returns (returns_askDownload.2 ⟨answered, rfl⟩)).2 ?_
    dsimp only
    rw [if_pos (Graph.isInstance_eq_true_iff.2 typed),
      returns_bind_of_returns (returns_newGraph.2 ⟨rfl, rfl⟩)]
    exact returns_pure.2 ⟨rfl, rfl⟩

/-- In a store a node is found if the resource at the URL that it is looked up at states its class. Its
context is in a new graph, with the triples of this resource, and in this resource. -/
theorem returns_lookUpInstance_some_iff {world after : World Store} :
    (lookUpInstance cls target node).Returns Store.client world (some context) after ↔
      ∃ kind graph, world.resources.kindOf target = .ok kind ∧
        world.resources.graphOf (lookUpUrl kind target node) = .ok graph ∧
        Graph.typing node cls ∈ graph ∧
        context = { subject := some node, graph := world.graphs.size, kind := kind,
                    url := lookUpUrl kind target node } ∧
        after = { world with
          resources := (world.resources.note target .kind).note (lookUpUrl kind target node)
            .download
          graphs := world.graphs.push graph } :=
  returns_lookUpInstance_iff

end LookUps

/-! ### Fields that ask for one entity -/

/-- The field asks for the entity of a type that an identifier names. -/
structure Request.Finds (request : Request) (typeName identifier : String) : Prop where
  /-- The field is not read from the context of an entity. -/
  entry : ¬ Reads request.field
  /-- The field does not ask for a change. -/
  query : request.isMutation = false
  /-- The type of the entity. -/
  type : request.field.type.name = typeName
  /-- The identifier is given as an argument. -/
  named : request.argument? identifierField = some (.string identifier)

section Entries

variable {σ : Type} {client : Client σ} {world after : World σ} {resolver : Resolver}
  {request : Request} {typeName identifier cls target iri : String} {result : Resolved}

theorem classOf?_of_classOf (ofClass : resolver.classOf typeName = .ok cls) :
    resolver.definition.classOf? typeName = some cls := by
  unfold Resolver.classOf at ofClass
  split at ofClass
  · rename_i known
    rw [known, Except.ok.inj ofClass]
  · cases ofClass

/-- A field that asks for one entity is answered with what the look-up of its IRI finds. -/
theorem returns_instance_iff (finds : request.Finds typeName identifier)
    (ofClass : resolver.classOf typeName = .ok cls) (kept : resolver.target cls = .ok target)
    (names : parseIdentifier (.string identifier) identifierField target = .ok iri) :
    (resolver.resolve request).Returns client world result after ↔
      ∃ found, (lookUpInstance cls target (.iri iri)).Returns client world found after ∧
        result = .ofContext? found := by
  rw [resolve_of_query finds.entry finds.query]
  rw [← finds.type] at ofClass
  refine (returns_lift_bind_of_eq ofClass).trans ((returns_lift_bind_of_eq kept).trans ?_)
  simp only [finds.named]
  rw [returns_lift_bind_of_eq names, returns_bind_of_returns (returns_pure.2 ⟨rfl, rfl⟩)]
  exact returns_bind_pure

/-- A field that asks for one entity, and is answered, has looked up the IRI that the identifier names. -/
theorem exists_lookUp_of_returns (finds : request.Finds typeName identifier)
    (ran : (resolver.resolve request).Returns client world result after) :
    ∃ cls target iri found, resolver.classOf typeName = .ok cls ∧
      parseIdentifier (.string identifier) identifierField target = .ok iri ∧
      (lookUpInstance cls target (.iri iri)).Returns client world found after ∧
      result = .ofContext? found := by
  have entered := ran
  rw [resolve_of_query finds.entry finds.query] at entered
  obtain ⟨cls, ofClass, entered⟩ := returns_lift_bind.1 entered
  obtain ⟨target, kept, entered⟩ := returns_lift_bind.1 entered
  simp only [finds.named] at entered
  obtain ⟨iri, _, parsed, -⟩ := returns_bind.1 entered
  obtain ⟨names, -⟩ := returns_lift.1 parsed
  rw [finds.type] at ofClass
  obtain ⟨found, looked, answer⟩ := (returns_instance_iff finds ofClass kept names).1 ran
  exact ⟨cls, target, iri, found, ofClass, names, looked, answer⟩

end Entries

/-- A field that asks for the entity of an absolute IRI is answered with it, if the resource at the URL
that it is looked up at states its class. -/
theorem returns_instance_of_typing {world : World Store} {resolver : Resolver} {request : Request}
    {typeName iri cls target : String} {kind : ResourceKind} {graph : Graph}
    (finds : request.Finds typeName iri) (isAbsolute : Iri.isAbsolute iri = true)
    (ofClass : resolver.classOf typeName = .ok cls) (kept : resolver.target cls = .ok target)
    (isKind : world.resources.kindOf target = .ok kind)
    (held : world.resources.graphOf (lookUpUrl kind target (.iri iri)) = .ok graph)
    (typed : Graph.typing (.iri iri) cls ∈ graph) :
    ∃ last, (resolver.resolve request).Returns Store.client world
        (.node { subject := some (.iri iri), graph := world.graphs.size, kind := kind,
                 url := lookUpUrl kind target (.iri iri) }) last ∧
      last.graphs = world.graphs.push graph := by
  have found := returns_lookUpInstance_some_iff.2 ⟨kind, graph, isKind, held, typed, rfl, rfl⟩
  have names := parseIdentifier_of_isAbsolute isAbsolute identifierField target
  exact ⟨_, (returns_instance_iff finds ofClass kept names).2 ⟨_, found, rfl⟩, rfl⟩

end LinkedShapes.Resolution
