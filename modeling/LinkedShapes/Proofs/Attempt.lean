import LinkedShapes.Ldp.Store
import LinkedShapes.Resolution.Field

/-!
# Running attempts

An attempt is run in a world and ends with a value or an error, in the world that it leaves behind.
`Returns` says that it ends with a value; one lemma for each kind of step says when, so that what a
whole attempt did can be read off its definition, from the first step to the last.

## Main statements

* `returns_bind`: one attempt after another returns what the second one returns in the world that the
  first one left.
* `returns_write`, `returns_kind`, `returns_download`: a call returns if the client accepts it.
* `resolve_of_mutates`: a field that asks for a change is resolved as a mutation.
-/

namespace LinkedShapes.Resolution

open Rdf Ldp Schema

variable {σ α β : Type} {client : Client σ} {world after : World σ}

theorem except_bind_eq_ok {ε : Type} {value : Except ε α} {next : α → Except ε β} {result : β} :
    (value >>= next) = .ok result ↔ ∃ a, value = .ok a ∧ next a = .ok result := by
  cases value with
  | error cause => simp [bind, Except.bind]
  | ok a => simp [bind, Except.bind]

namespace Attempt

/-- Runs an attempt in a world with a client of its resources. -/
def runIn (client : Client σ) (attempt : Attempt α) (world : World σ) :
    Except ResolveError α × World σ :=
  Program.run client attempt.run world

/-- The attempt ends with a value, and leaves a world behind. -/
def Returns (client : Client σ) (attempt : Attempt α) (world : World σ) (value : α)
    (after : World σ) : Prop :=
  attempt.runIn client world = (.ok value, after)

/-- Running one attempt after another stops at the first error. -/
theorem runIn_bind (attempt : Attempt α) (next : α → Attempt β) (world : World σ) :
    (attempt >>= next).runIn client world =
      match attempt.runIn client world with
      | (.ok value, between) => (next value).runIn client between
      | (.error cause, between) => (.error cause, between) := by
  have bound : (attempt >>= next).runIn client world =
      (ExceptT.bindCont next (attempt.runIn client world).1).run client
        (attempt.runIn client world).2 :=
    Program.run_bind client attempt.run (ExceptT.bindCont next) world
  rw [bound]
  rcases attempt.runIn client world with ⟨_ | _, _⟩ <;> rfl

theorem returns_bind {attempt : Attempt α} {next : α → Attempt β} {result : β} :
    (attempt >>= next).Returns client world result after ↔
      ∃ value between, attempt.Returns client world value between ∧
        (next value).Returns client between result after := by
  unfold Returns
  rw [runIn_bind]
  rcases attempt.runIn client world with ⟨cause | value, between⟩
  · simp
  · constructor
    · intro h
      exact ⟨value, between, rfl, h⟩
    · rintro ⟨_, _, h, h'⟩
      cases h
      exact h'

/-- After an attempt whose end is known, the next one goes on from there. -/
theorem returns_bind_of_returns {attempt : Attempt α} {next : α → Attempt β} {value : α}
    {between : World σ} {result : β} (ran : attempt.Returns client world value between) :
    (attempt >>= next).Returns client world result after ↔
      (next value).Returns client between result after := by
  unfold Returns at ran ⊢
  rw [runIn_bind, ran]

theorem returns_pure {value result : α} :
    (pure value : Attempt α).Returns client world result after ↔
      value = result ∧ world = after := by
  change ((Except.ok value : Except ResolveError α), world) = _ ↔ _
  simp

/-- An attempt whose value is then only looked at differently. -/
theorem returns_bind_pure {attempt : Attempt α} {f : α → β} {result : β} :
    (attempt >>= fun value => pure (f value)).Returns client world result after ↔
      ∃ value, attempt.Returns client world value after ∧ result = f value := by
  rw [returns_bind]
  constructor
  · rintro ⟨value, between, ran, ended⟩
    obtain ⟨rfl, rfl⟩ := returns_pure.1 ended
    exact ⟨value, ran, rfl⟩
  · rintro ⟨value, ran, rfl⟩
    exact ⟨value, after, ran, returns_pure.2 ⟨rfl, rfl⟩⟩

theorem not_returns_throw {cause : ResolveError} {result : α} :
    ¬ (throw cause : Attempt α).Returns client world result after := by
  intro h
  change ((Except.error cause : Except ResolveError α), world) = _ at h
  simp at h

/-- A result that is known without a world is returned if it is not an error. -/
theorem returns_lift {value : Except ResolveError α} {result : α} :
    (liftM value : Attempt α).Returns client world result after ↔
      value = .ok result ∧ world = after := by
  change (value, world) = _ ↔ _
  simp

theorem returns_lift_bind {value : Except ResolveError α} {next : α → Attempt β} {result : β} :
    (liftM value >>= next).Returns client world result after ↔
      ∃ a, value = .ok a ∧ (next a).Returns client world result after := by
  cases value with
  | ok a =>
    rw [returns_bind_of_returns (returns_lift.2 ⟨rfl, rfl⟩)]
    simp
  | error cause =>
    rw [returns_bind]
    simp [returns_lift]

theorem returns_lift_bind_of_eq {value : Except ResolveError α} {next : α → Attempt β} {a : α}
    {result : β} (known : value = .ok a) :
    (liftM value >>= next).Returns client world result after ↔
      (next a).Returns client world result after :=
  returns_bind_of_returns (returns_lift.2 ⟨known, rfl⟩)

theorem returns_ofSchema_bind {value : Except SchemaError α} {next : α → Attempt β} {result : β} :
    (ofSchema value >>= next).Returns client world result after ↔
      ∃ a, value = .ok a ∧ (next a).Returns client world result after := by
  cases value with
  | ok a =>
    rw [ofSchema, returns_bind_of_returns (returns_pure.2 ⟨rfl, rfl⟩)]
    simp
  | error cause =>
    rw [ofSchema, returns_bind]
    simp [not_returns_throw]

/-! ### Steps -/

theorem returns_askKind {url : String} {answer : Except Failure ResourceKind} :
    (askKind url).Returns client world answer after ↔
      (client.kind url world.resources).1 = answer ∧
        { world with resources := (client.kind url world.resources).2 } = after := by
  change (_, _) = _ ↔ _
  simp

theorem returns_askDownload {url : String} {answer : Except Failure Graph} :
    (askDownload url).Returns client world answer after ↔
      (client.download url world.resources).1 = answer ∧
        { world with resources := (client.download url world.resources).2 } = after := by
  change (_, _) = _ ↔ _
  simp

theorem returns_answered {answer : Except Failure α} {result : α} :
    (answered answer).Returns client world result after ↔
      answer = .ok result ∧ world = after := by
  cases answer with
  | ok value => rw [answered, returns_pure]; simp
  | error failure => simp [answered, not_returns_throw]

/-- A question and then its answer, where the question always gets one answer. -/
theorem returns_answer_of {ask : Attempt (Except Failure α)} {answer : Except Failure α}
    {between : World σ} {result : α}
    (asked : ∀ a w, ask.Returns client world a w ↔ answer = a ∧ between = w) :
    (ask >>= answered).Returns client world result after ↔
      answer = .ok result ∧ between = after := by
  rw [returns_bind]
  simp only [asked, returns_answered]
  constructor
  · rintro ⟨_, _, ⟨rfl, rfl⟩, h, rfl⟩
    exact ⟨h, rfl⟩
  · rintro ⟨h, rfl⟩
    exact ⟨_, _, ⟨rfl, rfl⟩, h, rfl⟩

theorem returns_kind {url : String} {result : ResourceKind} :
    (kind url).Returns client world result after ↔
      (client.kind url world.resources).1 = .ok result ∧
        { world with resources := (client.kind url world.resources).2 } = after :=
  returns_answer_of fun _ _ => returns_askKind

theorem returns_download {url : String} {result : Graph} :
    (download url).Returns client world result after ↔
      (client.download url world.resources).1 = .ok result ∧
        { world with resources := (client.download url world.resources).2 } = after :=
  returns_answer_of fun _ _ => returns_askDownload

theorem returns_write {url : String} {change : Write} {result : Unit} :
    (write url change).Returns client world result after ↔
      (client.write url change world.resources).1 = .ok result ∧
        { world with resources := (client.write url change world.resources).2 } = after := by
  refine returns_answer_of fun answer between => ?_
  change (_, _) = _ ↔ _
  rw [Prod.mk.injEq, Except.ok.injEq]

theorem returns_newGraph {graph : Graph} {result : GraphRef} :
    (newGraph graph).Returns client world result after ↔
      world.graphs.size = result ∧ { world with graphs := world.graphs.push graph } = after := by
  change (_, _) = _ ↔ _
  rw [Prod.mk.injEq, Except.ok.injEq]

theorem returns_readGraph {ref : GraphRef} {result : Graph} :
    (readGraph ref).Returns client world result after ↔
      world.graph ref = result ∧ world = after := by
  change (_, _) = _ ↔ _
  rw [Prod.mk.injEq, Except.ok.injEq]

theorem returns_readGraph_bind {ref : GraphRef} {next : Graph → Attempt β} {result : β} :
    (readGraph ref >>= next).Returns client world result after ↔
      (next (world.graph ref)).Returns client world result after := by
  rw [returns_bind_of_returns (returns_readGraph.2 ⟨rfl, rfl⟩)]

theorem returns_changeGraph {ref : GraphRef} {patch : Patch} {result : Unit} :
    (changeGraph ref patch).Returns client world result after ↔
      world.patchGraph ref patch = after := by
  change (_, _) = _ ↔ _
  simp

theorem returns_freshName {result : String} :
    freshName.Returns client world result after ↔
      world.names.next.1 = result ∧ { world with names := world.names.next.2 } = after := by
  change (Except.ok world.names.next.1, _) = _ ↔ _
  rw [Prod.mk.injEq, Except.ok.injEq]
  exact Iff.rfl

end Attempt

/-! ### Fields that ask for a change -/

/-- Whether the field is read from the context of its entity: it is the identifier, or it stands for
the values of a predicate. -/
def Reads (field : Field) : Prop :=
  field.directive = some .identifier ∨ field.property?.isSome

instance (field : Field) : Decidable (Reads field) :=
  inferInstanceAs (Decidable (_ ∨ _))

theorem reads_iff {field : Field} :
    Reads field ↔ field.directive = some .identifier ∨
      ∃ property, field.directive = some (.property property) := by
  unfold Reads Field.property?
  rcases field.directive with _ | _ | property | cls <;> simp [Directive.property?]

theorem Request.context_of_parent {request : Request} {context : Context}
    (parent : request.parent = some context) : request.context = .ok context := by
  rw [Request.context, parent]

theorem namedSubject_of_subject {request : Request} {context : Context} {subject : String}
    (named : context.subject = some (.iri subject)) : namedSubject request context = .ok subject := by
  rw [namedSubject, named]

/-- The field asks for a change of a kind, and none was made on the way to it. -/
structure Request.Mutates (request : Request) (kind : MutationKind) : Prop where
  /-- The field belongs to the root of mutations or to a mutator. -/
  mutation : request.isMutation = true
  /-- No change was made on the way to the field. -/
  unhandled : request.isHandled = false
  /-- The field is not read from the context of its entity. -/
  entry : ¬ Reads request.field
  /-- The name of the field starts with a verb of the kind. -/
  verb : (MutationKind.ofName request.field.name).1 = kind

/-- The field asks for a change of the entity of a context, which has an IRI. -/
structure Request.MutatesEntity (request : Request) (kind : MutationKind) (context : Context)
    (subject : String) : Prop where
  /-- The field asks for the change. -/
  mutates : request.Mutates kind
  /-- The field belongs to the entity of the context. -/
  parent : request.parent = some context
  /-- The entity has the IRI. -/
  named : context.subject = some (.iri subject)

/-- What a kind of change does; `suffix` is the name after the verb. -/
def performedBy (resolver : Resolver) (request : Request) (suffix : String) :
    MutationKind → Attempt Resolved
  | .create => create resolver request
  | .mutate => mutate resolver request
  | .delete => delete request
  | .update => update resolver request
  | .relation change => changeRelation resolver request change suffix
  | .read => entryPoint resolver request

/-- A field that is not read from the context of its entity is an entry point. -/
theorem resolve_of_not_reads {resolver : Resolver} {request : Request}
    (entry : ¬ Reads request.field) :
    resolver.resolve request =
      if request.isMutation && !request.isHandled then resolveMutation resolver request
      else entryPoint resolver request := by
  rw [reads_iff] at entry
  unfold Resolver.resolve
  split
  · rename_i identifier
    exact absurd (Or.inl identifier) entry
  · rename_i property stands
    exact absurd (Or.inr ⟨property, stands⟩) entry
  · rfl

/-- A field that asks for no change is answered as a query. -/
theorem resolve_of_query {resolver : Resolver} {request : Request} (entry : ¬ Reads request.field)
    (query : request.isMutation = false) :
    resolver.resolve request = entryPoint resolver request := by
  rw [resolve_of_not_reads entry]
  simp [query]

/-- A field that asks for a change is resolved by what its kind of change does. -/
theorem resolve_of_mutates {resolver : Resolver} {request : Request} {kind : MutationKind}
    (mutates : request.Mutates kind) :
    resolver.resolve request =
      performedBy resolver request (MutationKind.ofName request.field.name).2 kind := by
  have dispatched : resolver.resolve request = resolveMutation resolver request := by
    rw [resolve_of_not_reads mutates.entry]
    simp [mutates.mutation, mutates.unhandled]
  rw [dispatched, resolveMutation, ← mutates.verb]
  generalize MutationKind.ofName request.field.name = named
  obtain ⟨found, suffix⟩ := named
  cases found <;> rfl

/-! ### Parts of a resolution -/

/-- The node that an entry point asks for, if it asks for one: that of the identifier that is given, or
else that of the parent. -/
def Request.entryNode (request : Request) (target : String) : Except ResolveError (Option Node) :=
  match request.argument? identifierField with
  | some value => do
    let iri ← parseIdentifier value identifierField target
    return some (.iri iri)
  | none => return request.parent.bind Context.subject

/-- Looks up the entity of a node, or all the instances of a class where no node is asked for. -/
def lookUp (request : Request) (cls target : String) : Option Node → Attempt Resolved
  | some node => do
    let found ← lookUpInstance cls target node
    return .ofContext? found
  | none => do
    let contexts ← lookUpCollection cls target
    return .ofItems (contexts.map .node) request.field.type.list

/-- An entry point checks the request, then looks up what it asks for. -/
theorem entryPoint_eq (resolver : Resolver) (request : Request) :
    entryPoint resolver request = (do
      let cls ← resolver.classOf request.field.type.name
      let target ← resolver.target cls
      let node ← request.entryNode target
      lookUp request cls target node) := by
  unfold entryPoint Request.entryNode
  congr 1
  funext cls
  congr 1
  funext target
  cases request.argument? identifierField with
  | some value =>
    dsimp only
    cases parseIdentifier value identifierField target <;> rfl
  | none => cases request.parent.bind Context.subject <;> rfl

/-- The write of a creation: a new document with the triples of the entity, or a patch that adds them to
the document. -/
def creationWrite (inserts : List Triple) : ResourceKind → Write
  | .container => .put (Graph.ofList inserts)
  | .document => .patch { inserts }

/-- Writes a new entity to its document, and answers it with a copy of its triples. -/
def writeNew (cls : String) (type : InputType) (values : List (String × Json)) (kind : ResourceKind)
    (document subject : String) : Attempt Resolved := do
  let inserts := Graph.typing (.iri subject) cls :: (← statedTriples subject type values)
  Attempt.write document (creationWrite inserts kind)
  let ref ← Attempt.newGraph (Graph.ofList inserts)
  return .node { subject := some (.iri subject), graph := ref, kind := kind, url := document,
                 handled := true }

/-- Mints a new entity and writes it: in a container to a new document, else to the document. -/
def createIn (cls target : String) (type : InputType) (values : List (String × Json)) :
    ResourceKind → Attempt Resolved
  | .container => do
    let (document, subject) ← mintDocument target values
    ensureAbsent document
    writeNew cls type values .container document subject
  | .document => do
    let subject ← mintSubject target values
    writeNew cls type values .document target subject

/-- A creation reads the request, asks for the kind of its target and creates the entity there. -/
theorem create_eq (resolver : Resolver) (request : Request) :
    create resolver request = (do
      let cls ← resolver.classOf request.field.type.name
      let target ← resolver.target cls
      let (type, values) ← inputObject resolver request
      let kind ← Attempt.kind target
      createIn cls target type values kind) := by
  unfold create
  congr 1
  funext cls
  congr 1
  funext target
  congr 1
  funext ⟨type, values⟩
  dsimp only
  congr 1
  funext kind
  cases kind <;> rfl

/-- The write of a removal: the document of an entity that was looked up in a container is removed, the
triples of another entity are, if there are any. -/
def sendRemoval (context : Context) (deletes : List Triple) : Attempt Unit :=
  match context.kind with
  | .container => Attempt.write context.url .delete
  | .document => unless deletes.isEmpty do Attempt.write context.url (.patch { deletes })

/-- What follows the write of a removal: the entity is removed from its graph, and answered with a copy of
its triples and those that could be reached from it. -/
def detach (context : Context) (subject : String) (graph : Graph) : Attempt Resolved := do
  Attempt.changeGraph context.graph { deletes := graph.about (.iri subject) }
  let removed ← Attempt.newGraph
    (Graph.ofList (graph.about (.iri subject) ++ graph.reachable (.iri subject)))
  return .node { context with graph := removed, handled := true }

/-- A removal reads the triples of the entity, sends the write and detaches the entity. -/
theorem delete_eq (request : Request) :
    delete request = (do
      let context ← request.context
      let subject ← namedSubject request context
      let graph ← Attempt.readGraph context.graph
      sendRemoval context (graph.about (.iri subject))
      detach context subject graph) := by
  unfold delete sendRemoval
  congr 1
  funext context
  congr 1
  funext subject
  congr 1
  funext graph
  obtain ⟨node, ref, kind, url, handled⟩ := context
  cases kind with
  | container => rfl
  | document =>
    dsimp only
    split <;> rfl

/-- The world that a request leaves behind, whether it is answered or fails. -/
def Resolver.settle {σ : Type} (resolver : Resolver) (client : Client σ) (world : World σ)
    (request : Request) : World σ :=
  ((resolver.resolve request).runIn client world).2

/-! ### An address book

A small schema that the hypotheses of the theorems about all schemas are tried on. -/

namespace AddressBook

/-- The class of the contacts. -/
def person : String := "http://schema.org/Person"

/-- The shape of a contact, who has mail addresses and knows other contacts. -/
def shape : NodeShape where
  id := .iri "http://example.org/shapes#Contact"
  name := "Contact"
  targetClass := some person
  properties :=
    [{ name := "email", path := "http://schema.org/email", kind := .scalar .string Xsd.string,
       minCount := none, maxCount := none },
     { name := "knows", path := "http://schema.org/knows", kind := .relation person,
       minCount := none, maxCount := none }]

/-- The shape alone. -/
def index : ShapeIndex where
  graph := .empty
  details := .empty
  shapes := [shape]
  byClass := [(person, shape)]

/-- The container of the contacts. -/
def container : String := "http://example.org/contacts/"

/-- The schema of the shape; the contacts are kept in the container. -/
def resolver : Resolver where
  definition := (Definition.ofIndex index).toOption.getD default
  target? cls := if cls = person then some container else none

/-- A request for a field of a type of the schema. -/
def field (owner name : String) (arguments : List (String × Json)) (parent : Option Context) :
    Request :=
  let owner := (resolver.definition.object? owner).getD default
  { owner, field := (owner.field? name).getD default, arguments, parent }

/-- The document of a contact. -/
def document : String := "http://example.org/contacts/ada"

/-- Two contacts who know each other. -/
def triples : List Triple :=
  let ada := Node.iri "http://example.org/contacts/ada#ada"
  let joe := Node.iri "http://example.org/contacts/ada#joe"
  [Graph.typing ada person, Graph.typing joe person,
   ⟨ada, "http://schema.org/knows", .iri "http://example.org/contacts/ada#joe"⟩,
   ⟨joe, "http://schema.org/knows", .iri "http://example.org/contacts/ada#ada"⟩,
   ⟨ada, "http://schema.org/email", .literal (.simple "ada@example.org")⟩]

/-- The store holds the document, and a shared graph its triples. -/
def stored : World Store where
  resources := (Store.empty.addContainer container).addTriples document triples
  graphs := #[Graph.ofList triples]
  names := { draw := fun _ => 0 }

/-- The contact whose document it is. -/
def ada : Context where
  subject := some (.iri "http://example.org/contacts/ada#ada")
  graph := 0
  kind := .container
  url := document

/-- The creation of a contact with some members of the input. -/
def creation (members : List (String × Json)) : Request :=
  field mutationType "createContact" [(inputArgument, .object members)] none

/-- The update of the addresses of the contact. -/
def addressChange : Request :=
  field "ContactMutation" "update"
    [(inputArgument, .object [("email", .array [.string "ada@example.com"])])] (some ada)

/-- The removal of the contact. -/
def removal : Request := field "ContactMutation" "delete" [] (some ada)

end AddressBook

end LinkedShapes.Resolution
