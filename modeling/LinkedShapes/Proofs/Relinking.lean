import LinkedShapes.Proofs.Calls
import LinkedShapes.Proofs.Freshness
import Mathlib.Data.Set.Insert

/-!
# Changing a relation

The objects of a relation of an entity, as its graph has them, are what a change of the relation is about.
Each verb says what they are afterwards, given what they were before; which of them are entities, and
whether the entity that is named is among them already, does not matter. A change that makes a new entity
states its class and its literals besides. Everything else in the graph stays, and where there is nothing
to remove nothing is sent.

## Main statements

* `Request.Relinks`: what a change of a relation asks for.
* `Graph.Relinked`: what the graph holds after it.
* `relinked_of_relationPatch`: the patch of a change does what the change asks for.
* `relation_relinks`: so does a change that is answered, and a change that finds nothing makes no call.
-/

namespace LinkedShapes.Rdf

/-- The objects that an entity has by a property. -/
def Graph.objects (graph : Graph) (subject property : String) : Set Term :=
  {object | (⟨.iri subject, property, object⟩ : Triple) ∈ graph}

@[simp]
theorem Graph.mem_objects {graph : Graph} {subject property : String} {object : Term} :
    object ∈ graph.objects subject property ↔ (⟨.iri subject, property, object⟩ : Triple) ∈ graph :=
  Iff.rfl

/-- A relation of an entity was given objects and some triples were stated besides, of a new entity if
there is one. Nothing else was changed. -/
structure Graph.Relinked (before after : Graph) (subject property : String) (child : Option String)
    (objects : Set Term) (stated : Set Triple) : Prop where
  /-- The relation has the objects, unless it is the entity itself that was made. -/
  replaced : child ≠ some subject → after.objects subject property = objects
  /-- If it is, the relation may also have objects that were stated. -/
  linked : ∀ object, object ∈ after.objects subject property ↔
    object ∈ objects ∨ ⟨.iri subject, property, object⟩ ∈ stated
  /-- Any other triple is there if it was there before or was stated. -/
  other : ∀ t : Triple, t.subject ≠ .iri subject ∨ t.predicate ≠ property →
    (t ∈ after ↔ t ∈ before ∨ t ∈ stated)

section Relinked

variable {before after : Graph} {subject property : String} {child : Option String}
  {objects : Set Term} {stated : Set Triple}

/-- Triples that are stated of another entity give the relation no object. -/
theorem Graph.Relinked.of_linked (about : ∀ t ∈ stated, ∃ iri, child = some iri ∧ t.subject = .iri iri)
    (linked : ∀ object, object ∈ after.objects subject property ↔
      object ∈ objects ∨ ⟨.iri subject, property, object⟩ ∈ stated)
    (other : ∀ t : Triple, t.subject ≠ .iri subject ∨ t.predicate ≠ property →
      (t ∈ after ↔ t ∈ before ∨ t ∈ stated)) :
    before.Relinked after subject property child objects stated where
  replaced different := by
    ext object
    refine (linked object).trans (or_iff_left fun h => ?_)
    obtain ⟨iri, isChild, same⟩ := about _ h
    exact different (isChild.trans (congrArg some (Node.iri.inj same).symm))
  linked := linked
  other := other

/-- What a graph was relinked to depends on its triples only. -/
theorem Graph.Relinked.congr {last : Graph}
    (relinked : before.Relinked after subject property child objects stated)
    (same : ∀ t, t ∈ last ↔ t ∈ after) :
    before.Relinked last subject property child objects stated where
  replaced different := (Set.ext fun _ => same _).trans (relinked.replaced different)
  linked object := (same _).trans (relinked.linked object)
  other t outside := (same t).trans (relinked.other t outside)

end Relinked

end LinkedShapes.Rdf

namespace LinkedShapes.Resolution

open Rdf Ldp Schema Attempt

/-! ### What is asked for -/

/-- What is stated of a new entity: its class, and the literals that the input gives. -/
def statedOfNew (cls : String) (type : InputType) (values : List (String × Json)) (child : String) :
    Set Triple :=
  {t | t = Graph.typing (.iri child) cls ∨
    ∃ property literal, type.Gives values property literal ∧ t = literalTriple child property literal}

/-- The field asks for a new entity of the class of a relation, of which some triples are stated. Its IRI
is the one that the input names, if it names one. -/
def Request.Makes (request : Request) (resolver : Resolver) (context : Context) (field : Field)
    (child : String) (stated : Set Triple) : Prop :=
  ∃ cls type values, resolver.classOf field.type.name = .ok cls ∧
    inputObject resolver request = .ok (type, values) ∧
    (∀ iri, namedIri? context.url values = some iri → child = iri) ∧
    Iri.isAbsolute child = true ∧ stated = statedOfNew cls type values child

theorem Request.Makes.about {request : Request} {resolver : Resolver} {context : Context}
    {field : Field} {child : String} {stated : Set Triple}
    (makes : request.Makes resolver context field child stated) :
    ∀ t ∈ stated, ∃ iri, some child = some iri ∧ t.subject = .iri iri := by
  obtain ⟨cls, type, values, -, -, -, -, rfl⟩ := makes
  rintro t (rfl | ⟨property, literal, -, rfl⟩)
  · exact ⟨child, rfl, rfl⟩
  · exact ⟨child, rfl, rfl⟩

/-- What a change of a relation asks for: the new entity that it makes, if it makes one, the objects that
the relation has afterwards, given those that it had before, and the triples that are stated besides. -/
inductive Request.Relinks (request : Request) (resolver : Resolver) (context : Context)
    (field : Field) (before : Set Term) :
    RelationChange → (child : Option String) → (objects : Set Term) → (stated : Set Triple) → Prop
  /-- A new entity takes the place of all objects. -/
  | set {child : String} {stated : Set Triple}
      (makes : request.Makes resolver context field child stated) :
      Relinks request resolver context field before .set (some child) {.iri child} stated
  /-- A new entity is added. -/
  | add {child : String} {stated : Set Triple}
      (makes : request.Makes resolver context field child stated) :
      Relinks request resolver context field before .add (some child) (insert (.iri child) before)
        stated
  /-- There are no objects. -/
  | clear : Relinks request resolver context field before .clear none ∅ ∅
  /-- An entity is added to a list. -/
  | linkToList {iri : String} (list : field.type.list = true)
      (names : identifierArgument request context.url = .ok iri) :
      Relinks request resolver context field before .link none (insert (.iri iri) before) ∅
  /-- Where there is no list it takes the place of all objects. -/
  | linkToOne {iri : String} (one : field.type.list = false)
      (names : identifierArgument request context.url = .ok iri) :
      Relinks request resolver context field before .link none {.iri iri} ∅
  /-- An entity is left out. -/
  | remove {change : RelationChange} {iri : String} (removes : change = .remove ∨ change = .unlink)
      (names : identifierArgument request context.url = .ok iri) :
      Relinks request resolver context field before change none (before \ {.iri iri}) ∅

/-- The change has nothing to remove: the relation has no object, or not the one that is named. -/
def Request.FindsNothing (request : Request) (context : Context) (before : Set Term) :
    RelationChange → Prop
  | .clear => before = ∅
  | .remove | .unlink =>
    ∃ iri, identifierArgument request context.url = .ok iri ∧ .iri iri ∉ before
  | .set | .add | .link => False

/-! ### The patch of a change -/

section Patches

variable {σ : Type} {client : Client σ} {world after : World σ} {resolver : Resolver}
  {request : Request} {context : Context} {subject property : String} {field : Field}
  {patch : Patch} {graph : Graph}

/-- A patch that deletes links of a relation only, and inserts links of it and what is stated of another
entity, relinks it to what it leaves and what it adds. -/
theorem relinked_apply {child : Option String} {added objects : Set Term} {stated : Set Triple}
    (about : ∀ t ∈ stated, ∃ iri, child = some iri ∧ t.subject = .iri iri)
    (deletes : ∀ t ∈ patch.deletes, t.subject = .iri subject ∧ t.predicate = property)
    (inserts : ∀ t, t ∈ patch.inserts ↔
      t ∈ stated ∨ ∃ object ∈ added, t = ⟨.iri subject, property, object⟩)
    (same : ∀ object, object ∈ objects ↔
      (object ∈ graph.objects subject property ∧
        ⟨.iri subject, property, object⟩ ∉ patch.deletes) ∨ object ∈ added) :
    graph.Relinked (patch.apply graph) subject property child objects stated := by
  refine .of_linked about (fun object => ?_) fun t outside => ?_
  · have links : (∃ other ∈ added, (⟨.iri subject, property, object⟩ : Triple) =
        ⟨.iri subject, property, other⟩) ↔ object ∈ added := by simp
    have found : object ∈ (patch.apply graph).objects subject property ↔
        (object ∈ graph.objects subject property ∧
          ⟨.iri subject, property, object⟩ ∉ patch.deletes) ∨
          ⟨.iri subject, property, object⟩ ∈ patch.inserts := Patch.mem_apply
    rw [found, inserts, links, same, or_assoc, or_comm (a := object ∈ added)]
  · have kept : t ∉ patch.deletes := fun h => outside.elim (· (deletes t h).1) (· (deletes t h).2)
    have unlinked : ¬ ∃ object ∈ added, t = ⟨.iri subject, property, object⟩ := by
      rintro ⟨object, -, rfl⟩
      exact outside.elim (· rfl) (· rfl)
    rw [Patch.mem_apply, inserts, and_iff_left kept, or_iff_left unlinked]

/-- A patch that deletes and inserts links of a relation only relinks it to what it leaves and what it
adds. -/
theorem relinked_apply_links {added objects : Set Term}
    (deletes : ∀ t ∈ patch.deletes, t.subject = .iri subject ∧ t.predicate = property)
    (inserts : ∀ t, t ∈ patch.inserts ↔ ∃ object ∈ added, t = ⟨.iri subject, property, object⟩)
    (same : ∀ object, object ∈ objects ↔
      (object ∈ graph.objects subject property ∧
        ⟨.iri subject, property, object⟩ ∉ patch.deletes) ∨ object ∈ added) :
    graph.Relinked (patch.apply graph) subject property none objects ∅ :=
  relinked_apply (fun t none => absurd none (Set.notMem_empty t)) deletes
    (fun t => (inserts t).trans (or_iff_right (Set.notMem_empty t)).symm) same

/-- A patch that only deletes links of a relation relinks it to what it leaves. -/
theorem relinked_apply_deletes {objects : Set Term}
    (deletes : ∀ t ∈ patch.deletes, t.subject = .iri subject ∧ t.predicate = property)
    (inserts : ∀ t, t ∉ patch.inserts)
    (same : ∀ object, object ∈ objects ↔ object ∈ graph.objects subject property ∧
      ⟨.iri subject, property, object⟩ ∉ patch.deletes) :
    graph.Relinked (patch.apply graph) subject property none objects ∅ := by
  have nothing (t : Triple) : t ∈ patch.inserts ↔
      ∃ object ∈ (∅ : Set Term), t = ⟨.iri subject, property, object⟩ :=
    iff_of_false (inserts t) fun ⟨object, mem, _⟩ => Set.notMem_empty object mem
  exact relinked_apply_links deletes nothing fun object =>
    (same object).trans (or_iff_left (Set.notMem_empty object)).symm

/-- The patch that links a new entity deletes what it is asked to, and inserts the link and what is stated
of the entity. -/
theorem makes_of_returns_newLinkPatch {deletes : List Triple}
    (made : (newLinkPatch resolver request context subject property field deletes).Returns client
      world patch after) :
    ∃ child stated, request.Makes resolver context field child stated ∧
      (∀ t, t ∈ patch.deletes ↔ t ∈ deletes) ∧
      ∀ t, t ∈ patch.inserts ↔
        t ∈ stated ∨ ∃ object ∈ ({.iri child} : Set Term), t = ⟨.iri subject, property, object⟩ := by
  obtain ⟨cls, _, ofClass, -⟩ := returns_bind.1 made
  obtain ⟨ofClass, -⟩ := returns_lift.1 ofClass
  obtain ⟨type, values, child, input, named, isAbsolute, inserts⟩ :=
    mem_inserts_of_returns_newLinkPatch ofClass made
  refine ⟨child, statedOfNew cls type values child,
    ⟨cls, type, values, ofClass, input, named, isAbsolute, rfl⟩,
    mem_deletes_of_returns_newLinkPatch made, fun t => ?_⟩
  rw [inserts, ← or_assoc]
  simp [statedOfNew, linkTriple]

/-- The patch of a change of a relation does what the change asks for. -/
theorem relinked_of_relationPatch {change : RelationChange}
    (made : (relationPatch resolver request context subject property field
      (graph.values (.iri subject) property) change).Returns client world patch after) :
    ∃ child objects stated,
      request.Relinks resolver context field (graph.objects subject property) change child objects
        stated ∧
      graph.Relinked (patch.apply graph) subject property child objects stated := by
  have links (t : Triple) (h : t ∈ patch.deletes) :
      t.subject = .iri subject ∧ t.predicate = property :=
    (Graph.mem_values.1 (relationPatch_deletes made t h)).2
  cases change with
  | set =>
    obtain ⟨child, stated, makes, deletes, inserts⟩ := makes_of_returns_newLinkPatch made
    refine ⟨_, _, _, .set makes, relinked_apply makes.about links inserts fun object => ?_⟩
    simp [deletes]
  | add =>
    obtain ⟨child, stated, makes, deletes, inserts⟩ := makes_of_returns_newLinkPatch made
    refine ⟨_, _, _, .add makes, relinked_apply makes.about links inserts fun object => ?_⟩
    simp [deletes, or_comm]
  | clear =>
    obtain ⟨rfl, -⟩ := returns_pure.1 made
    refine ⟨_, _, _, .clear, relinked_apply_deletes links (fun t => ?_) fun object => ?_⟩
    · simp [Patch.inserts_deleteAll, Patch.empty]
    · simp +contextual [Patch.mem_deletes_deleteAll]
  | link =>
    obtain ⟨iri, _, names, made⟩ := returns_bind.1 made
    obtain ⟨names, -⟩ := returns_lift.1 names
    obtain ⟨rfl, -⟩ := returns_pure.1 made
    have inserts (replaced : List Triple) (t : Triple) :
        t ∈ ((Patch.empty.deleteAll replaced).insert (linkTriple subject property iri)).inserts ↔
          ∃ object ∈ ({.iri iri} : Set Term), t = ⟨.iri subject, property, object⟩ := by
      simp [Patch.inserts_deleteAll, Patch.empty, linkTriple]
    cases isList : field.type.list with
    | true =>
      rw [isList] at links
      refine ⟨_, _, _, .linkToList isList names,
        relinked_apply_links links (inserts _) fun object => ?_⟩
      simp [Patch.deletes_insert, Patch.mem_deletes_deleteAll, Patch.empty, or_comm]
    | false =>
      rw [isList] at links
      refine ⟨_, _, _, .linkToOne isList names,
        relinked_apply_links links (inserts _) fun object => ?_⟩
      refine ⟨Or.inr, fun h => h.elim (fun ⟨there, kept⟩ => ?_) id⟩
      -- a link to another entity is deleted
      by_contra different
      refine kept ?_
      rw [Patch.deletes_insert, Patch.mem_deletes_deleteAll]
      exact Or.inr (by simpa [linkTriple] using ⟨there, different⟩)
  | remove | unlink =>
    obtain ⟨iri, _, names, made⟩ := returns_bind.1 made
    obtain ⟨names, -⟩ := returns_lift.1 names
    obtain ⟨rfl, -⟩ := returns_pure.1 made
    refine ⟨_, _, _, .remove (by simp) names,
      relinked_apply_deletes links (fun t => ?_) fun object => ?_⟩
    · split <;> simp [Patch.delete, Patch.empty]
    · split
      · simp [linkTriple, Patch.empty]
      · rename_i unlinked
        have absent : (⟨.iri subject, property, .iri iri⟩ : Triple) ∉ graph := by
          simpa [linkTriple] using unlinked
        have different : object ∈ graph.objects subject property → object ≠ .iri iri := by
          rintro there rfl
          exact absent there
        simpa [Patch.empty] using different

end Patches

/-! ### The change -/

/-- The relation that a field changes: the field of the entity that is named after the verb, and its
property. -/
def Request.relation (request : Request) (resolver : Resolver) :
    Except ResolveError (Field × String) :=
  changedRelation resolver request (MutationKind.ofName request.field.name).2

section Changes

variable {σ : Type} {client : Client σ} {world after : World σ} {resolver : Resolver}
  {request : Request} {context : Context} {subject property : String} {field : Field}
  {change : RelationChange} {result : Resolved}

/-- A change that is answered does what it asks for in the graph of its entity, and changes no other
graph. -/
theorem Request.MutatesEntity.relinked
    (changes : request.MutatesEntity (.relation change) context subject)
    (there : context.graph < world.graphs.size)
    (ran : (resolver.resolve request).Returns client world result after) :
    ∃ field property child objects stated, request.relation resolver = .ok (field, property) ∧
      request.Relinks resolver context field ((world.graph context.graph).objects subject property)
        change child objects stated ∧
      (world.graph context.graph).Relinked (after.graph context.graph) subject property child objects
        stated ∧
      ∀ ref, ref ≠ context.graph → after.graph ref = world.graph ref := by
  rw [resolve_of_mutates changes.mutates] at ran
  obtain ⟨field, property, patch, between, changed, made, applied, -⟩ :=
    exists_patch_of_returns_changeRelation changes.parent changes.named ran
  obtain ⟨child, objects, stated, relinks, relinked⟩ := relinked_of_relationPatch made
  -- the graphs are as they were until the patch is applied
  have observes : (relationPatch resolver request context subject property field
      ((world.graph context.graph).values (.iri subject) property) change).Observes false :=
    observes_relationPatch resolver request context subject property field _ change
  have graphs := observes.graphs_eq made
  have kept (ref : GraphRef) : between.graph ref = world.graph ref := by
    rw [World.graph, graphs, World.graph]
  obtain ⟨graph, others, -⟩ := graphs_of_returns_applyPatch (graphs ▸ there) applied
  refine ⟨field, property, child, objects, stated, changed, relinks, relinked.congr fun t => ?_,
    fun ref other => (others ref other).trans (kept ref)⟩
  rw [graph, kept, Patch.mem_apply]

/-- A change that has nothing to remove is answered without a call, and nothing is changed. -/
theorem Request.MutatesEntity.idles
    (changes : request.MutatesEntity (.relation change) context subject)
    (relation : request.relation resolver = .ok (field, property))
    (nothing : request.FindsNothing context
      ((world.graph context.graph).objects subject property) change) :
    (resolver.resolve request).Idles client world (.ok (.node context.afterMutation)) := by
  have planned : (relationPatch resolver request context subject property field
      ((world.graph context.graph).values (.iri subject) property) change).Idles client world
      (.ok Patch.empty) := by
    cases change with
    | set | add | link => exact nothing.elim
    | clear =>
      have none : (world.graph context.graph).values (.iri subject) property = [] := by
        refine List.eq_nil_iff_forall_not_mem.2 fun t h => ?_
        obtain ⟨there, about, along⟩ := Graph.mem_values.1 h
        obtain ⟨_, _, object⟩ := t
        subst about along
        exact Set.notMem_empty object (nothing ▸ there)
      rw [none]
      exact idles_pure _
    | remove | unlink =>
      obtain ⟨iri, names, absent⟩ := nothing
      have unlinked : linkTriple subject property iri ∉
          (world.graph context.graph).values (.iri subject) property :=
        fun h => absent (Graph.mem_values.1 h).1
      refine idles_lift_bind names ?_
      dsimp only
      rw [if_neg unlinked]
      exact idles_pure _
  rw [resolve_of_mutates changes.mutates]
  refine idles_lift_bind (Request.context_of_parent changes.parent) ?_
  refine idles_lift_bind (namedSubject_of_subject changes.named) ?_
  refine idles_lift_bind relation ?_
  refine (idles_readGraph _).bind (planned.bind ?_)
  exact (idles_pure ()).bind (idles_pure _)

end Changes

/-- A change of a relation that is answered gives the relation the objects that the verb says: the new
entity alone or besides the others, the entity that is named alone or besides the others, none, or the
others without it. Of a new entity its class and the literals of the input are stated; any other triple
outside of the relation, and any other graph, is as it was. A change that has nothing to remove is
answered without a call. -/
theorem relation_relinks {σ : Type} (client : Client σ) (resolver : Resolver) {request : Request}
    {change : RelationChange} {context : Context} {subject : String} (world : World σ)
    (changes : request.MutatesEntity (.relation change) context subject)
    (there : context.graph < world.graphs.size) :
    (∀ result after, (resolver.resolve request).Returns client world result after →
      ∃ field property child objects stated, request.relation resolver = .ok (field, property) ∧
        request.Relinks resolver context field
          ((world.graph context.graph).objects subject property) change child objects stated ∧
        (world.graph context.graph).Relinked (after.graph context.graph) subject property child
          objects stated ∧
        ∀ ref, ref ≠ context.graph → after.graph ref = world.graph ref) ∧
    ∀ field property, request.relation resolver = .ok (field, property) →
      request.FindsNothing context ((world.graph context.graph).objects subject property) change →
      (resolver.resolve request).Idles client world (.ok (.node context.afterMutation)) :=
  ⟨fun _ _ ran => changes.relinked there ran, fun _ _ relation nothing => changes.idles relation nothing⟩

open AddressBook

/-- The end of the acquaintance with a contact whom none is acquainted with. -/
def eveForgotten : Request :=
  field "ContactMutation" "removeKnows" [(identifierField, .string "#eve")] (some ada)

/-- A new acquaintance is known besides the others, and none is forgotten who was not known. -/
theorem relation_relinks_knows :
    ((resolver.settle Store.client stored eveMet).graph 0).objects
        "http://example.org/contacts/ada#ada" "http://schema.org/knows" =
      insert (.iri eve) ((stored.graph 0).objects
        "http://example.org/contacts/ada#ada" "http://schema.org/knows") ∧
    (resolver.resolve eveForgotten).Idles Store.client stored (.ok (.node ada.afterMutation)) := by
  have there : ada.graph < stored.graphs.size := Nat.zero_lt_one
  constructor
  · have meets : eveMet.MutatesEntity (.relation .add) ada "http://example.org/contacts/ada#ada" :=
      ⟨⟨rfl, rfl, by decide, rfl⟩, rfl, rfl⟩
    have ran : (resolver.resolve eveMet).Returns Store.client stored (.node ada.afterMutation)
        (resolver.settle Store.client stored eveMet) := rfl
    obtain ⟨field, property, child, objects, stated, relation, relinks, relinked, -⟩ :=
      (relation_relinks Store.client resolver stored meets there).1 _ _ ran
    obtain ⟨rfl, rfl⟩ : knows = field ∧ "http://schema.org/knows" = property :=
      Prod.mk.inj (Except.ok.inj relation)
    cases relinks with
    | remove removes => simp at removes
    | add makes =>
      obtain ⟨cls, type, values, -, input, named, -⟩ := makes
      have members : [(slugField, .string "eve")] = values := congrArg Prod.snd (Except.ok.inj input)
      obtain rfl := named eve (by rw [← members]; rfl)
      exact relinked.replaced (by decide)
  · have forgets : eveForgotten.MutatesEntity (.relation .remove) ada
        "http://example.org/contacts/ada#ada" :=
      ⟨⟨rfl, rfl, by decide, rfl⟩, rfl, rfl⟩
    refine (relation_relinks Store.client resolver stored forgets there).2 knows
      "http://schema.org/knows" rfl ⟨eve, rfl, ?_⟩
    rw [Graph.mem_objects, ← Graph.contains_eq_true_iff]
    decide +kernel

end LinkedShapes.Resolution
