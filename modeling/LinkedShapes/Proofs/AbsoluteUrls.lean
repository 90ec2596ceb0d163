import LinkedShapes.Proofs.AbsoluteIris
import LinkedShapes.Proofs.Agreement
import LinkedShapes.Proofs.Confinement

/-!
# Stores stay readable

A container can be read only if the URLs of all resources in it are absolute, so that one bad URL in a store
makes a container unreadable for good. No field puts such a URL there. What is written to comes from a
target, from an IRI that was checked, or from a node that was read; and the nodes that are read were in the
store, or are classes and IRIs that were checked. So the URLs and the nodes of a store stay absolute over
any history of fields, with entities of earlier answers as the parents of later fields.

## Main statements

* `resolve_secures`: a field writes absolute IRIs only, and its entities have absolute IRIs only.
* `History.isAbsolute`: what is kept over a history of fields.
* `history_stays_readable`: after any history, all URLs are absolute and all containers can be read.
-/

namespace LinkedShapes.Resolution

open Rdf Ldp Schema Attempt

/-! ### Contexts and answers -/

/-- The URL of a context is absolute, and so is its node, if it has one. -/
structure Context.IsAbsolute (context : Context) : Prop where
  /-- The URL. -/
  url : Iri.isAbsolute context.url = true
  /-- The node. -/
  subject : ∀ node, context.subject = some node → node.IsAbsolute

/-- The entities of an answer are absolute. -/
def Resolved.IsAbsolute (result : Resolved) : Prop :=
  ∀ place context, result.entityAt place = some context → context.IsAbsolute

/-- The entity that a field belongs to is absolute, if there is one. -/
def Request.HasAbsoluteParent (request : Request) : Prop :=
  ∀ context, request.parent = some context → context.IsAbsolute

/-- The classes of a schema and the URLs where their instances are kept are absolute. -/
structure Resolver.IsAbsolute (resolver : Resolver) : Prop where
  /-- The class of each type. -/
  classes : ∀ typeName cls, resolver.definition.classOf? typeName = some cls →
    Iri.isAbsolute cls = true
  /-- The URL for each class. -/
  targets : ∀ cls url, resolver.target? cls = some url → Iri.isAbsolute url = true

section Answers

variable {context : Context} {node : Node} {resolver : Resolver} {request : Request}

theorem Context.IsAbsolute.entity (isAbsolute : context.IsAbsolute) (ofNode : node.IsAbsolute) :
    (context.entity node).IsAbsolute := by
  refine ⟨?_, fun n known => ?_⟩
  · obtain ⟨_, _, kind, _, _⟩ := context
    cases node with
    | blank label => exact isAbsolute.url
    | iri text =>
      cases kind with
      | container => exact isAbsolute_documentUrl ofNode
      | document => exact isAbsolute.url
  · rw [Context.subject_entity] at known
    exact Option.some.inj known ▸ ofNode

theorem Resolved.isAbsolute_node (isAbsolute : context.IsAbsolute) :
    (Resolved.node context).IsAbsolute := by
  rintro _ _ ⟨⟩
  exact isAbsolute

theorem Resolved.isAbsolute_ofContext? {found : Option Context}
    (all : ∀ context, found = some context → context.IsAbsolute) :
    (Resolved.ofContext? found).IsAbsolute := by
  cases found with
  | none => exact nofun
  | some context => exact Resolved.isAbsolute_node (all context rfl)

theorem Resolved.isAbsolute_ofItems {α : Type} {items : List α} {entity : α → Context} {list : Bool}
    (all : ∀ a ∈ items, (entity a).IsAbsolute) :
    (Resolved.ofItems (items.map fun a => .node (entity a)) list).IsAbsolute := by
  intro place context led
  obtain ⟨a, mem, rfl⟩ := mem_of_entityAt led
  exact all a mem

theorem Resolver.IsAbsolute.classOf (isAbsolute : resolver.IsAbsolute) {typeName cls : String}
    (known : resolver.classOf typeName = .ok cls) : Iri.isAbsolute cls = true := by
  unfold Resolver.classOf at known
  split at known
  · rename_i found
    cases known
    exact isAbsolute.classes typeName _ found
  · cases known

theorem Resolver.IsAbsolute.target (isAbsolute : resolver.IsAbsolute) {cls url : String}
    (known : resolver.target cls = .ok url) : Iri.isAbsolute url = true := by
  unfold Resolver.target at known
  split at known
  · rename_i found
    cases known
    exact isAbsolute.targets cls _ found
  · cases known

theorem isAbsolute_of_parseIdentifier {value : Json} {name url iri : String}
    (parsed : parseIdentifier value name url = .ok iri) : Iri.isAbsolute iri = true := by
  obtain ⟨_, -, -, isAbsolute⟩ := parseIdentifier_eq_ok_iff.1 parsed
  exact isAbsolute

theorem isAbsolute_of_identifierArgument {url iri : String}
    (asked : identifierArgument request url = .ok iri) : Iri.isAbsolute iri = true := by
  obtain ⟨_, -, -, isAbsolute⟩ := identifierArgument_eq_ok_iff.1 asked
  exact isAbsolute

/-- The node that an entry point asks for is absolute. -/
theorem isAbsolute_of_entryNode {target : String} {node? : Option Node}
    (parent : request.HasAbsoluteParent) (asked : request.entryNode target = .ok node?) :
    ∀ node, node? = some node → node.IsAbsolute := by
  unfold Request.entryNode at asked
  cases given : request.argument? identifierField with
  | some value =>
    simp only [given] at asked
    obtain ⟨iri, parsed, asked⟩ := except_bind_eq_ok.1 asked
    cases asked
    rintro _ ⟨⟩
    exact isAbsolute_of_parseIdentifier parsed
  | none =>
    simp only [given] at asked
    cases asked
    intro node known
    obtain ⟨context, isParent, subject⟩ := Option.bind_eq_some_iff.1 known
    exact (parent context isParent).subject node subject

theorem isAbsolute_of_context (parent : request.HasAbsoluteParent)
    (given : request.context = .ok context) : context.IsAbsolute := by
  unfold Request.context at given
  split at given
  · rename_i isParent
    cases given
    exact parent _ isParent
  · cases given

theorem isAbsolute_of_namedSubject {subject : String} (isAbsolute : context.IsAbsolute)
    (named : namedSubject request context = .ok subject) : Iri.isAbsolute subject = true := by
  unfold namedSubject at named
  split at named
  · rename_i known
    cases named
    exact isAbsolute.subject _ known
  · cases named
  · cases named

end Answers

/-! ### Looking up -/

section LookUps

variable {resolver : Resolver} {request : Request} {cls target : String}

theorem lookUpInstance_secures {node : Node} (ofTarget : Iri.isAbsolute target = true)
    (ofNode : node.IsAbsolute) :
    (lookUpInstance cls target node).Secures fun found =>
      ∀ context, found = some context → context.IsAbsolute := by
  refine (secures_kind target).bind fun kind _ => ?_
  have ofUrl : Iri.isAbsolute (lookUpUrl kind target node) = true := by
    cases kind with
    | document => exact ofTarget
    | container =>
      cases node with
      | iri text => exact isAbsolute_documentUrl ofNode
      | blank label => exact ofTarget
  refine (secures_askDownload _).bind fun answer read => ?_
  cases answer with
  | error failure =>
    dsimp only
    split
    · exact secures_pure nofun
    · exact secures_throw _
  | ok graph =>
    dsimp only
    split
    · refine (secures_newGraph (read graph rfl)).bind fun ref _ => secures_pure ?_
      rintro _ ⟨⟩
      exact ⟨ofUrl, fun n known => Option.some.inj known ▸ ofNode⟩
    · exact secures_pure nofun

theorem downloadAll_secures (urls : List String) : (downloadAll urls).Secures Graph.IsAbsolute := by
  unfold downloadAll
  have start := Graph.isAbsolute_empty
  generalize Graph.empty = merged at start ⊢
  induction urls generalizing merged with
  | nil => exact secures_pure start
  | cons url rest ih =>
    rw [List.foldlM_cons]
    have one : (do return merged.merge (← Attempt.download url) : Attempt Graph).Secures
        Graph.IsAbsolute :=
      (secures_download url).bind fun graph read => secures_pure (start.merge read)
    exact one.bind fun merged both => ih merged both

theorem gather_secures {resource : Graph} (ofResource : resource.IsAbsolute) (kind : ResourceKind) :
    (gather resource kind).Secures Graph.IsAbsolute := by
  cases kind with
  | document => exact secures_pure ofResource
  | container => exact downloadAll_secures _

theorem lookUpCollection_secures (ofTarget : Iri.isAbsolute target = true) :
    (lookUpCollection cls target).Secures fun contexts => ∀ context ∈ contexts, context.IsAbsolute := by
  rw [lookUpCollection_eq]
  refine (secures_kind target).bind fun kind _ => ?_
  refine (secures_download target).bind fun resource read => ?_
  refine (gather_secures read kind).bind fun graph ofGraph => ?_
  refine (secures_newGraph ofGraph).bind fun ref _ => secures_pure fun context mem => ?_
  obtain ⟨node, listed, rfl⟩ := List.mem_map.1 mem
  have root : ({ graph := ref, kind := kind, url := target : Context }).IsAbsolute := ⟨ofTarget, nofun⟩
  exact root.entity (ofGraph _ (mem_sortedInstances.1 listed)).subject

theorem lookUp_secures {node? : Option Node} (ofTarget : Iri.isAbsolute target = true)
    (ofNode : ∀ node, node? = some node → node.IsAbsolute) :
    (lookUp request cls target node?).Secures Resolved.IsAbsolute := by
  cases node? with
  | some node =>
    exact (lookUpInstance_secures ofTarget (ofNode node rfl)).bind fun found all =>
      secures_pure (Resolved.isAbsolute_ofContext? all)
  | none =>
    refine (lookUpCollection_secures ofTarget).bind fun contexts all => secures_pure ?_
    have itself (context : Context) (mem : context ∈ contexts) : (id context).IsAbsolute :=
      all context mem
    exact Resolved.isAbsolute_ofItems itself

/-- An entry point is answered with absolute entities. -/
theorem entryPoint_secures (ofResolver : resolver.IsAbsolute) (parent : request.HasAbsoluteParent) :
    (entryPoint resolver request).Secures Resolved.IsAbsolute := by
  rw [entryPoint_eq]
  refine secures_lift_bind fun cls known => ?_
  refine secures_lift_bind fun target kept => ?_
  refine secures_lift_bind fun node? asked => ?_
  exact lookUp_secures (ofResolver.target kept) (isAbsolute_of_entryNode parent asked)

theorem mutate_secures (ofResolver : resolver.IsAbsolute) :
    (mutate resolver request).Secures Resolved.IsAbsolute := by
  refine secures_lift_bind fun cls known => ?_
  refine secures_lift_bind fun target kept => ?_
  refine secures_lift_bind fun iri asked => ?_
  have ofNode : (Node.iri iri).IsAbsolute := isAbsolute_of_identifierArgument asked
  exact (lookUpInstance_secures (ofResolver.target kept) ofNode).bind fun found all =>
    secures_pure (Resolved.isAbsolute_ofContext? all)

end LookUps

/-! ### Reading -/

section Fields

variable {resolver : Resolver} {request : Request} {context : Context}

theorem identifierValue_secures (request : Request) :
    (identifierValue request).Secures Resolved.IsAbsolute := by
  refine secures_lift_bind fun context _ => ?_
  cases context.identifier? with
  | some text => exact secures_pure nofun
  | none => exact secures_pure nofun

theorem scalarProperty_secures (request : Request) (property : String) (scalar : Scalar) :
    (scalarProperty request property scalar).Secures Resolved.IsAbsolute := by
  refine secures_lift_bind fun context _ => ?_
  split
  · exact secures_pure nofun
  · refine (secures_readGraph _).bind fun graph _ => secures_pure fun place found led => ?_
    rw [entityAt_scalars] at led
    cases led

/-- The entities that an absolute entity is linked to are absolute. -/
theorem relationProperty_secures (parent : request.HasAbsoluteParent) (property : String) :
    (relationProperty resolver request property).Secures Resolved.IsAbsolute := by
  refine secures_lift_bind fun context given => ?_
  split
  · exact secures_pure nofun
  · refine (secures_readGraph _).bind fun graph ofGraph => secures_pure ?_
    refine Resolved.isAbsolute_ofItems fun n linked => ?_
    exact (isAbsolute_of_context parent given).entity
      ((ofGraph _ (mem_linkedNodes.1 linked).1).object n rfl)

/-! ### Creating -/

theorem nameOrFresh_secures (values : List (String × Json)) :
    (nameOrFresh values).Secures fun _ => True := by
  refine secures_lift_bind fun slug _ => ?_
  cases slug with
  | some slug => exact secures_pure trivial
  | none => exact secures_freshName

theorem mintSubject_secures (document : String) (values : List (String × Json)) :
    (mintSubject document values).Secures fun subject => Iri.isAbsolute subject = true := by
  have checked (iri : String) : ∀ subject, checkedIri iri identifierField = .ok subject →
      Iri.isAbsolute subject = true := by
    intro subject isChecked
    obtain ⟨rfl, isAbsolute⟩ := checkedIri_eq_ok_iff.1 isChecked
    exact isAbsolute
  refine secures_lift_bind fun identifier _ => ?_
  cases identifier with
  | some identifier => exact secures_lift (checked _)
  | none => exact (nameOrFresh_secures values).bind fun fragment _ => secures_lift (checked _)

/-- The URL of a new document is absolute, as it is the part of an absolute IRI before its fragment. -/
theorem mintDocument_secures (container : String) (values : List (String × Json)) :
    (mintDocument container values).Secures fun minted =>
      Iri.isAbsolute minted.1 = true ∧ Iri.isAbsolute minted.2 = true := by
  refine secures_lift_bind fun identifier _ => ?_
  cases identifier with
  | some identifier =>
    refine (mintSubject_secures container values).bind fun subject isAbsolute => ?_
    dsimp only
    split
    · exact secures_throw _
    · exact secures_pure ⟨isAbsolute_documentUrl isAbsolute, isAbsolute⟩
  | none =>
    refine (nameOrFresh_secures values).bind fun name _ => ?_
    dsimp only
    split
    · exact secures_throw _
    · refine secures_lift_bind fun subject checked => secures_pure ?_
      obtain ⟨rfl, isAbsolute⟩ := checkedIri_eq_ok_iff.1 checked
      exact ⟨documentUrl_of_isAbsolute isAbsolute ▸ isAbsolute_documentUrl isAbsolute, isAbsolute⟩

theorem ensureAbsent_secures (url : String) : (ensureAbsent url).Secures fun _ => True := by
  refine (secures_askKind url).bind fun answer _ => ?_
  cases answer with
  | ok kind => exact secures_throw _
  | error failure =>
    dsimp only
    split
    · exact secures_pure trivial
    · exact secures_throw _

/-- What an input states of an absolute entity is absolute. -/
theorem isAbsolute_of_statedTriples {subject : String} {type : InputType}
    {values : List (String × Json)} {stated : List Triple} (ofSubject : Iri.isAbsolute subject = true)
    (made : statedTriples subject type values = .ok stated) : ∀ t ∈ stated, t.IsAbsolute := by
  intro t mem
  obtain ⟨property, literal, -, rfl⟩ := (mem_statedTriples made).1 mem
  exact Triple.isAbsolute_literal ofSubject

theorem writeNew_secures {cls document subject : String} {type : InputType}
    {values : List (String × Json)} {kind : ResourceKind} (ofClass : Iri.isAbsolute cls = true)
    (ofDocument : Iri.isAbsolute document = true) (ofSubject : Iri.isAbsolute subject = true) :
    (writeNew cls type values kind document subject).Secures Resolved.IsAbsolute := by
  refine secures_lift_bind fun stated made => ?_
  have all : ∀ t ∈ Graph.typing (.iri subject) cls :: stated, t.IsAbsolute := by
    intro t mem
    rcases List.mem_cons.1 mem with rfl | mem
    · exact Triple.isAbsolute_iri ofSubject ofClass
    · exact isAbsolute_of_statedTriples ofSubject made t mem
  have ofWrite : (creationWrite (Graph.typing (.iri subject) cls :: stated) kind).IsAbsolute := by
    cases kind with
    | container => exact Graph.isAbsolute_ofList all
    | document => exact all
  refine (secures_write ofDocument ofWrite).bind fun _ _ => ?_
  refine (secures_newGraph (Graph.isAbsolute_ofList all)).bind fun ref _ => secures_pure ?_
  exact Resolved.isAbsolute_node ⟨ofDocument, fun n known => Option.some.inj known ▸ ofSubject⟩

theorem create_secures (ofResolver : resolver.IsAbsolute) :
    (create resolver request).Secures Resolved.IsAbsolute := by
  rw [create_eq]
  refine secures_lift_bind fun cls known => ?_
  refine secures_lift_bind fun target kept => ?_
  refine secures_lift_bind fun (type, values) _ => ?_
  refine (secures_kind target).bind fun kind _ => ?_
  have ofClass := ofResolver.classOf known
  cases kind with
  | container =>
    refine (mintDocument_secures target values).bind fun (document, subject) minted => ?_
    refine (ensureAbsent_secures document).bind fun _ _ => ?_
    exact writeNew_secures ofClass minted.1 minted.2
  | document =>
    refine (mintSubject_secures target values).bind fun subject minted => ?_
    exact writeNew_secures ofClass (ofResolver.target kept) minted

/-! ### Changing -/

theorem applyPatch_secures {patch : Patch} (ofContext : context.IsAbsolute)
    (inserts : ∀ t ∈ patch.inserts, t.IsAbsolute) :
    (applyPatch context patch).Secures fun _ => True := by
  unfold applyPatch
  split
  · exact secures_pure trivial
  · have ofWrite : (Write.patch patch).IsAbsolute := inserts
    exact (secures_write ofContext.url ofWrite).bind fun _ _ => secures_changeGraph inserts

theorem Context.IsAbsolute.afterMutation (ofContext : context.IsAbsolute) :
    context.afterMutation.IsAbsolute :=
  ⟨ofContext.url, ofContext.subject⟩

theorem update_secures (parent : request.HasAbsoluteParent) :
    (update resolver request).Secures Resolved.IsAbsolute := by
  refine secures_lift_bind fun context given => ?_
  have ofContext := isAbsolute_of_context parent given
  refine secures_lift_bind fun subject named => ?_
  refine secures_ofSchema_bind fun entity _ => ?_
  refine secures_lift_bind fun (type, values) _ => ?_
  refine (secures_readGraph _).bind fun graph _ => ?_
  refine secures_lift_bind fun patch made => ?_
  have inserts : ∀ t ∈ patch.inserts, t.IsAbsolute := by
    intro t mem
    obtain ⟨property, literal, -, rfl⟩ := (mem_inserts_updatePatch made).1 mem
    exact Triple.isAbsolute_literal (isAbsolute_of_namedSubject ofContext named)
  exact (applyPatch_secures ofContext inserts).bind fun _ _ =>
    secures_pure (Resolved.isAbsolute_node ofContext.afterMutation)

theorem newLinkPatch_secures (ofResolver : resolver.IsAbsolute) {subject property : String}
    {field : Field} {deletes : List Triple} (ofSubject : Iri.isAbsolute subject = true) :
    (newLinkPatch resolver request context subject property field deletes).Secures fun patch =>
      ∀ t ∈ patch.inserts, t.IsAbsolute := by
  refine secures_lift_bind fun cls known => ?_
  refine secures_lift_bind fun (type, values) _ => ?_
  refine (mintSubject_secures context.url values).bind fun child ofChild => ?_
  refine secures_lift_bind fun stated made => secures_pure fun t mem => ?_
  rw [Patch.mem_inserts_insert, Patch.mem_inserts_insertAll, Patch.mem_inserts_insert,
    Patch.inserts_deleteAll] at mem
  rcases mem with ((mem | rfl) | mem) | rfl
  · cases mem
  · exact Triple.isAbsolute_iri ofChild (ofResolver.classOf known)
  · exact isAbsolute_of_statedTriples ofChild made t mem
  · exact Triple.isAbsolute_iri ofSubject ofChild

theorem relationPatch_secures (ofResolver : resolver.IsAbsolute) {subject property : String}
    {field : Field} {links : List Triple} (ofSubject : Iri.isAbsolute subject = true)
    (change : RelationChange) :
    (relationPatch resolver request context subject property field links change).Secures fun patch =>
      ∀ t ∈ patch.inserts, t.IsAbsolute := by
  cases change with
  | set | add => exact newLinkPatch_secures ofResolver ofSubject
  | clear =>
    refine secures_pure fun t mem => ?_
    rw [Patch.inserts_deleteAll] at mem
    cases mem
  | link =>
    refine secures_lift_bind fun iri asked => secures_pure fun t mem => ?_
    rw [Patch.mem_inserts_insert, Patch.inserts_deleteAll] at mem
    rcases mem with mem | rfl
    · cases mem
    · exact Triple.isAbsolute_iri ofSubject (isAbsolute_of_identifierArgument asked)
  | remove | unlink =>
    refine secures_lift_bind fun iri _ => secures_pure fun t mem => ?_
    split at mem <;> cases mem

theorem changeRelation_secures (ofResolver : resolver.IsAbsolute)
    (parent : request.HasAbsoluteParent) (change : RelationChange) (suffix : String) :
    (changeRelation resolver request change suffix).Secures Resolved.IsAbsolute := by
  refine secures_lift_bind fun context given => ?_
  have ofContext := isAbsolute_of_context parent given
  refine secures_lift_bind fun subject named => ?_
  have ofSubject := isAbsolute_of_namedSubject ofContext named
  refine secures_lift_bind fun (field, property) _ => ?_
  refine (secures_readGraph _).bind fun graph _ => ?_
  refine (relationPatch_secures ofResolver ofSubject change).bind fun patch inserts => ?_
  exact (applyPatch_secures ofContext inserts).bind fun _ _ =>
    secures_pure (Resolved.isAbsolute_node ofContext.afterMutation)

theorem sendRemoval_secures (ofContext : context.IsAbsolute) (deletes : List Triple) :
    (sendRemoval context deletes).Secures fun _ => True := by
  have ofPatch : (Write.patch { deletes }).IsAbsolute := fun t mem => absurd mem List.not_mem_nil
  unfold sendRemoval
  split
  · exact secures_write ofContext.url trivial
  · split
    · exact secures_pure trivial
    · exact secures_write ofContext.url ofPatch

/-- The copy that a removal is answered with has triples of the graph only. -/
theorem detach_secures (ofContext : context.IsAbsolute) (subject : String) {graph : Graph}
    (ofGraph : graph.IsAbsolute) : (detach context subject graph).Secures Resolved.IsAbsolute := by
  have removes : ∀ t ∈ ({ deletes := graph.about (.iri subject) } : Patch).inserts, t.IsAbsolute :=
    fun t mem => absurd mem List.not_mem_nil
  refine (secures_changeGraph removes).bind fun _ _ => ?_
  have ofCopy : (Graph.ofList (graph.about (.iri subject) ++
      graph.reachable (.iri subject))).IsAbsolute := by
    refine Graph.isAbsolute_ofList fun t mem => ofGraph t ?_
    rcases List.mem_append.1 mem with mem | mem
    · exact (Graph.mem_about.1 mem).1
    · obtain ⟨order, listed, -⟩ := Graph.reachable_eq_flatMap graph (.iri subject)
      rw [listed] at mem
      obtain ⟨node, -, mem⟩ := List.mem_flatMap.1 mem
      exact (Graph.mem_about.1 mem).1
  refine (secures_newGraph ofCopy).bind fun ref _ => secures_pure ?_
  exact Resolved.isAbsolute_node ⟨ofContext.url, ofContext.subject⟩

theorem delete_secures (parent : request.HasAbsoluteParent) :
    (delete request).Secures Resolved.IsAbsolute := by
  rw [delete_eq]
  refine secures_lift_bind fun context given => ?_
  have ofContext := isAbsolute_of_context parent given
  refine secures_lift_bind fun subject _ => ?_
  refine (secures_readGraph _).bind fun graph ofGraph => ?_
  exact (sendRemoval_secures ofContext _).bind fun _ _ => detach_secures ofContext subject ofGraph

theorem resolveMutation_secures (ofResolver : resolver.IsAbsolute)
    (parent : request.HasAbsoluteParent) :
    (resolveMutation resolver request).Secures Resolved.IsAbsolute := by
  unfold resolveMutation
  split
  · exact create_secures ofResolver
  · exact mutate_secures ofResolver
  · exact delete_secures parent
  · exact update_secures parent
  · exact changeRelation_secures ofResolver parent _ _
  · exact entryPoint_secures ofResolver parent

/-- A field writes absolute IRIs only, and is answered with absolute entities. -/
theorem resolve_secures (ofResolver : resolver.IsAbsolute) (parent : request.HasAbsoluteParent) :
    (resolver.resolve request).Secures Resolved.IsAbsolute := by
  unfold Resolver.resolve
  split
  · exact identifierValue_secures request
  · split
    · exact scalarProperty_secures request _ _
    · exact relationProperty_secures parent _
  · split
    · exact resolveMutation_secures ofResolver parent
    · exact entryPoint_secures ofResolver parent

end Fields

/-! ### Histories -/

/-- The parent of a field is an entity of an earlier answer, if it has one. -/
def Request.Follows (request : Request) (answers : List Resolved) : Prop :=
  ∀ context, request.parent = some context →
    ∃ answer ∈ answers, ∃ place, answer.entityAt place = some context

/-- What a history of fields leaves behind, and the answers that were given. -/
inductive History (resolver : Resolver) (start : World Store) :
    World Store → List Resolved → Prop
  /-- Before the first field. -/
  | start : History resolver start start []
  /-- A field that was answered. -/
  | answered {world after : World Store} {answers : List Resolved} {request : Request}
      {answer : Resolved} (earlier : History resolver start world answers)
      (follows : request.Follows answers)
      (ran : (resolver.resolve request).Returns Store.client world answer after) :
      History resolver start after (answers ++ [answer])
  /-- A field that failed. -/
  | failed {world after : World Store} {answers : List Resolved} {request : Request}
      {cause : ResolveError} (earlier : History resolver start world answers)
      (follows : request.Follows answers)
      (ran : (resolver.resolve request).runIn Store.client world = (.error cause, after)) :
      History resolver start after answers

section Histories

variable {resolver : Resolver} {start world : World Store} {answers : List Resolved}

theorem Request.Follows.hasAbsoluteParent {request : Request} (follows : request.Follows answers)
    (all : ∀ answer ∈ answers, answer.IsAbsolute) : request.HasAbsoluteParent := by
  intro context parent
  obtain ⟨answer, earlier, place, led⟩ := follows context parent
  exact all answer earlier place context led

/-- The world and the answers of a history are absolute. -/
theorem History.isAbsolute (history : History resolver start world answers)
    (ofResolver : resolver.IsAbsolute) (ofStart : start.IsAbsolute) :
    world.IsAbsolute ∧ ∀ answer ∈ answers, answer.IsAbsolute := by
  induction history with
  | start => exact ⟨ofStart, nofun⟩
  | answered earlier follows ran ih =>
    obtain ⟨ofWorld, all⟩ := ih
    obtain ⟨ofAfter, ofAnswer⟩ :=
      (resolve_secures ofResolver (follows.hasAbsoluteParent all)).runIn ofWorld
    rw [ran] at ofAfter ofAnswer
    refine ⟨ofAfter, fun answer mem => ?_⟩
    rcases List.mem_append.1 mem with mem | mem
    · exact all answer mem
    · exact List.mem_singleton.1 mem ▸ ofAnswer _ rfl
  | failed earlier follows ran ih =>
    obtain ⟨ofWorld, all⟩ := ih
    obtain ⟨ofAfter, -⟩ := (resolve_secures ofResolver (follows.hasAbsoluteParent all)).runIn ofWorld
    rw [ran] at ofAfter
    exact ⟨ofAfter, all⟩

end Histories

/-- Over any history of fields, whatever they are and whether they are answered or not, the URLs of all
documents and containers stay absolute. So every container can be read afterwards, and nothing fails to be
read because of a URL that is not absolute. -/
theorem history_stays_readable {resolver : Resolver} {start world : World Store}
    {answers : List Resolved} (ofResolver : resolver.IsAbsolute) (ofStart : start.IsAbsolute)
    (history : History resolver start world answers) :
    (∀ url ∈ world.resources.documentUrls, Iri.isAbsolute url = true) ∧
    (∀ url ∈ world.resources.containers, Iri.isAbsolute url = true) ∧
    (∀ url ∈ world.resources.containers,
      ∃ graph, (Store.client.download url world.resources).1 = .ok graph) ∧
    ∀ url invalid, (Store.client.download url world.resources).1 ≠ .error (.invalidUrl invalid) := by
  have ofStore := (history.isAbsolute ofResolver ofStart).1.resources
  refine ⟨fun url mem => ?_, ofStore.containers, fun url mem => ofStore.exists_graphOf mem,
    fun url invalid failed => ?_⟩
  · obtain ⟨entry, there, rfl⟩ := List.mem_map.1 mem
    exact (ofStore.documents entry there).1
  · by_cases isContainer : url ∈ world.resources.containers
    · obtain ⟨graph, read⟩ := ofStore.exists_graphOf isContainer
      cases read.symm.trans failed
    · change world.resources.graphOf url = _ at failed
      rw [Store.graphOf, Store.isContainer, decide_eq_false isContainer] at failed
      split at failed
      · rename_i isTrue
        cases isTrue
      · split at failed <;> cases failed

namespace AddressBook

/-- The look-up of the contact to change. -/
def opening : Request :=
  field mutationType "mutateContact"
    [(identifierField, .string "http://example.org/contacts/ada#ada")] none

/-- The contact that is found. -/
def opened : Context := { ada with graph := 1 }

/-- The update of the addresses of the contact that is found. -/
def adjustment : Request := { addressChange with parent := some opened }

theorem isAbsolute_resolver : resolver.IsAbsolute where
  classes typeName cls known := by
    obtain ⟨type, found, ofType⟩ := Option.bind_eq_some_iff.1 known
    have all : ∀ type ∈ resolver.definition.objects, type.cls.all Iri.isAbsolute = true := by
      decide +kernel
    simpa [ofType] using all type (List.mem_of_find?_eq_some found)
  targets cls url known := by
    change (if cls = person then some AddressBook.container else none) = some url at known
    split at known
    · cases known
      decide +kernel
    · cases known

theorem isAbsolute_stored : stored.IsAbsolute := by
  refine ⟨⟨by decide +kernel, by decide +kernel⟩, fun graph mem => ?_⟩
  obtain rfl := Array.mem_singleton.1 mem
  decide +kernel

end AddressBook

open AddressBook

/-- The contacts can be read after a contact was looked up and changed. -/
theorem history_stays_readable_contacts :
    ∃ world answers, History resolver stored world answers ∧ answers.length = 2 ∧
      ∀ url ∈ world.resources.containers,
        ∃ graph, (Store.client.download url world.resources).1 = .ok graph := by
  have found : (resolver.resolve opening).Returns Store.client stored (.node opened)
      (resolver.settle Store.client stored opening) := rfl
  have changed : (resolver.resolve adjustment).Returns Store.client
      (resolver.settle Store.client stored opening) (.node opened.afterMutation)
      (resolver.settle Store.client (resolver.settle Store.client stored opening) adjustment) := rfl
  have follows : adjustment.Follows ([] ++ [.node opened]) := by
    intro context parent
    cases Option.some.inj parent
    exact ⟨.node opened, List.mem_singleton_self _, 0, rfl⟩
  have history :=
    (History.start.answered (show opening.Follows [] from nofun) found).answered follows changed
  obtain ⟨-, -, readable, -⟩ :=
    history_stays_readable isAbsolute_resolver isAbsolute_stored history
  exact ⟨_, _, history, rfl, readable⟩

end LinkedShapes.Resolution
