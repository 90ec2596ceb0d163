import LinkedShapes.Proofs.AbsoluteUrls
import LinkedShapes.Proofs.Rereading

/-!
# Identifiers stay the same

An identifier is given as any reference and is made absolute against a URL, so that one text names many
entities. What it is made to is checked, though, and an absolute IRI is not changed any more: against
whatever URL, it names itself, and the entity is known by it wherever it is found. So the identifier that an
entity is answered with can be given to any later field, and names the entity there.

## Main statements

* `Stable`: the IRIs that an entity is known by in every document and every request.
* `stable_of_isAbsolute`: an absolute IRI is stable.
* `identifiers_stable`: so is every IRI that an identifier names, and those of all entities that are
  answered in a history.
-/

namespace LinkedShapes.Resolution

open Rdf Ldp Schema Attempt

/-- The field asks for the entity that an identifier names, to read it or to change it. -/
inductive Request.AsksFor (request : Request) (identifier : String) : Prop
  /-- The entity is looked up. -/
  | find {typeName : String} (finds : request.Finds typeName identifier)
  /-- The entity is looked up to be changed. -/
  | mutate (mutates : request.Mutates .mutate)
    (given : request.argument? identifierField = some (.string identifier))

/-- The IRI is the identifier of its entity, and names this entity, whatever it is looked at from. -/
structure Stable (iri : String) : Prop where
  /-- The entity is known by it, whatever document it was found in. -/
  exposed : ∀ url, identifierOf (.iri iri) url = iri
  /-- It names itself, whatever it is made absolute against. -/
  parsed : ∀ name url, parseIdentifier (.string iri) name url = .ok iri
  /-- The identifier of an entity with the IRI is answered as the IRI. -/
  answered : ∀ {σ : Type} (client : Client σ) (resolver : Resolver) (world : World σ)
    (request : Request) (context : Context), request.field.directive = some .identifier →
    request.parent = some context → context.subject = some (.iri iri) →
    (resolver.resolve request).Returns client world (.scalar (.string iri)) world
  /-- A change of a relation that is given it as an argument takes it for the entity. -/
  argument : ∀ (request : Request) (url : String),
    request.argument? identifierField = some (.string iri) → identifierArgument request url = .ok iri
  /-- A field that asks for its entity finds no other one. -/
  found : ∀ {σ : Type} (client : Client σ) (resolver : Resolver) (world after : World σ)
    (request : Request) (context : Context), request.AsksFor iri →
    (resolver.resolve request).Returns client world (.node context) after →
    context.subject = some (.iri iri) ∧ context.identifier? = some iri

section Identifiers

variable {σ : Type} {client : Client σ} {resolver : Resolver} {world after : World σ}
  {request : Request} {context : Context} {iri : String}

theorem subject_of_returns_lookUpInstance {cls target : String} {node : Node}
    (looked : (lookUpInstance cls target node).Returns client world (some context) after) :
    context.subject = some node := by
  obtain ⟨kind, graph, -, -, -, rfl, -⟩ := returns_lookUpInstance_iff.1 looked
  rfl

/-- What is found for an identifier that is absolute has the identifier as its IRI. -/
theorem subject_of_asksFor (isAbsolute : Iri.isAbsolute iri = true) (asks : request.AsksFor iri)
    (ran : (resolver.resolve request).Returns client world (.node context) after) :
    context.subject = some (.iri iri) := by
  -- whatever was looked up, it is the IRI, which the identifier stands for against every target
  have named {target other : String}
      (names : parseIdentifier (.string iri) identifierField target = .ok other) : other = iri :=
    Except.ok.inj (names.symm.trans (parseIdentifier_of_isAbsolute isAbsolute identifierField target))
  have subject {cls target other : String} {found : Option Context}
      (looked : (lookUpInstance cls target (.iri other)).Returns client world found after)
      (answer : Resolved.node context = .ofContext? found) : context.subject = some (.iri other) := by
    cases found with
    | none => cases answer
    | some found =>
      obtain rfl := Resolved.node.inj answer
      exact subject_of_returns_lookUpInstance looked
  cases asks with
  | find finds =>
    obtain ⟨cls, target, other, found, -, names, looked, answer⟩ :=
      exists_lookUp_of_returns finds ran
    rw [subject looked answer, named names]
  | mutate mutates given =>
    rw [resolve_of_mutates mutates] at ran
    obtain ⟨cls, ofClass, entered⟩ := returns_lift_bind.1 ran
    obtain ⟨target, kept, -⟩ := returns_lift_bind.1 entered
    obtain ⟨other, argument, found, looked, answer⟩ := (returns_mutate_iff ofClass kept).1 ran
    rw [identifierArgument, given] at argument
    rw [subject looked answer, named argument]

/-- An absolute IRI is stable. -/
theorem stable_of_isAbsolute (isAbsolute : Iri.isAbsolute iri = true) : Stable iri := by
  have known {context : Context} (subject : context.subject = some (.iri iri)) :
      context.identifier? = some iri := by
    rw [Context.identifier?, subject, Option.map_some, identifierOf_iri_of_isAbsolute isAbsolute]
  constructor
  case exposed => exact identifierOf_iri_of_isAbsolute isAbsolute
  case parsed => exact parseIdentifier_of_isAbsolute isAbsolute
  case answered =>
    intro σ client resolver world request context isIdentifier parent subject
    have ran : (resolver.resolve request).Returns client world _ world :=
      returns_resolve_of_reads (.inl isIdentifier) parent
    simpa only [readField, isIdentifier, known subject] using ran
  case argument =>
    intro request url given
    rw [identifierArgument, given]
    exact parseIdentifier_of_isAbsolute isAbsolute identifierField url
  case found =>
    intro σ client resolver world after request context asks ran
    have subject := subject_of_asksFor isAbsolute asks ran
    exact ⟨subject, known subject⟩

end Identifiers

/-- An identifier, whatever it is made absolute against, names a stable IRI. So over any history of fields,
the entities of all answers are known by stable IRIs, if they are not blank. -/
theorem identifiers_stable :
    (∀ text name url iri, parseIdentifier (.string text) name url = .ok iri → Stable iri) ∧
    ∀ (resolver : Resolver) (start world : World Store) (answers : List Resolved),
      resolver.IsAbsolute → start.IsAbsolute → History resolver start world answers →
      ∀ answer ∈ answers, ∀ place context iri, answer.entityAt place = some context →
        context.subject = some (.iri iri) → context.identifier? = some iri ∧ Stable iri := by
  constructor
  · intro text name url iri parsed
    exact stable_of_isAbsolute (isAbsolute_of_parseIdentifier parsed)
  · intro resolver start world answers ofResolver ofStart history answer mem place context iri led subject
    have isAbsolute : Iri.isAbsolute iri = true :=
      ((history.isAbsolute ofResolver ofStart).2 answer mem place context led).subject _ subject
    have stable := stable_of_isAbsolute isAbsolute
    refine ⟨?_, stable⟩
    rw [Context.identifier?, subject, Option.map_some, stable.exposed]

open AddressBook

/-- A fragment names a contact of the document and nothing elsewhere, but the IRI that it stands for names
the contact everywhere. The contact that is found to be changed is known by it. -/
theorem identifiers_stable_fragment :
    parseIdentifier (.string "#ada") identifierField document =
      .ok "http://example.org/contacts/ada#ada" ∧
    parseIdentifier (.string "#ada") identifierField "http://example.org/others" ≠
      .ok "http://example.org/contacts/ada#ada" ∧
    Stable "http://example.org/contacts/ada#ada" ∧
    opened.identifier? = some "http://example.org/contacts/ada#ada" := by
  have parsed : parseIdentifier (.string "#ada") identifierField document =
      .ok "http://example.org/contacts/ada#ada" := rfl
  have stable := identifiers_stable.1 _ _ _ _ parsed
  have found : (resolver.resolve opening).Returns Store.client stored (.node opened)
      (resolver.settle Store.client stored opening) := rfl
  have history := History.start.answered (show opening.Follows [] from nofun) found
  obtain ⟨known, -⟩ := identifiers_stable.2 resolver stored _ _ isAbsolute_resolver isAbsolute_stored
    history (.node opened) (by simp) 0 opened _ rfl rfl
  exact ⟨parsed, by decide, stable, known⟩

end LinkedShapes.Resolution
