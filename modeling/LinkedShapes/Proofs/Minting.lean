import LinkedShapes.Proofs.Attempt
import LinkedShapes.Resolution.Minting

/-!
# The documents of new entities

A new entity in a container gets a document. Where its name is a slug, or was drawn, the document is
directly below the container: a name is a segment of a path. Where an identifier is given, the
document is the one of the identifier, which only has to be no container; it need not be below the
container that the entity was asked to be in.

## Main statements

* `isDirectChild_append`: a name without delimiters after a container names a resource directly below
  it.
* `eq_of_returns_mintSubject`: the IRI of a new entity is the one that its input names.
* `documentUrl_of_returns_mintDocument`: the new document is the document of the new IRI.
* `minted_of_returns_mintDocument`: what is known of the document of a new entity.
-/

namespace LinkedShapes.Ldp

/-- A name that does not end in a slash names, after a container, a resource directly below it if it is
one segment. -/
theorem isDirectChild_append_iff {container name : String} (noSlash : name.toList.getLast? ≠ some '/') :
    isDirectChild container (container ++ name) = true ↔ name ≠ "" ∧ '/' ∉ name.toList := by
  have below : (container ++ name).toList.drop container.toList.length = name.toList := by
    rw [String.toList_append, List.drop_left]
  have starts : container.toList.isPrefixOf (container ++ name).toList = true := by
    rw [List.isPrefixOf_iff_prefix, String.toList_append]
    exact List.prefix_append _ _
  unfold isDirectChild
  rw [starts, below]
  simp [noSlash]

theorem isDirectChild_append {container name : String} (filled : name ≠ "")
    (segment : '/' ∉ name.toList) : isDirectChild container (container ++ name) = true :=
  (isDirectChild_append_iff fun last => segment (List.mem_of_getLast? last)).2 ⟨filled, segment⟩

/-- The document of an IRI with a fragment is what stands before it. -/
theorem documentUrl_append {document fragment : String} (h : '#' ∉ document.toList) :
    documentUrl (document ++ "#" ++ fragment) = document := by
  have noHash : ∀ c ∈ document.toList, decide (c ≠ '#') = true := by
    intro c there
    refine decide_eq_true fun hash => h ?_
    exact hash ▸ there
  have before : (document ++ "#" ++ fragment).toList.takeWhile (· ≠ '#') = document.toList := by
    rw [String.toList_append, String.toList_append, List.append_assoc,
      List.takeWhile_append_of_pos noHash]
    exact List.append_nil _
  rw [documentUrl, before, String.ofList_toList]

/-- The document of an absolute IRI that was made with a fragment is what the fragment was added to. -/
theorem documentUrl_of_isAbsolute {document fragment : String}
    (isAbsolute : Iri.isAbsolute (document ++ "#" ++ fragment) = true) :
    documentUrl (document ++ "#" ++ fragment) = document := by
  -- the hash before the fragment is the only one
  have one := Iri.count_hash_le_one isAbsolute
  have noHash : '#' ∉ document.toList := by
    simp only [String.toList_append, List.count_append] at one
    rw [← List.count_eq_zero]
    have hash : "#".toList.count '#' = 1 := rfl
    omega
  exact documentUrl_append noHash

end LinkedShapes.Ldp

namespace LinkedShapes.Resolution

open Rdf Ldp Schema Attempt

/-! ### Names -/

theorem Names.nameOf_ne_empty (number : UInt64) : nameOf number ≠ "" := by
  intro h
  have none_left : List.replicate (16 - (Nat.toDigits 16 number.toNat).length) '0' ++
      Nat.toDigits 16 number.toNat = [] := by
    simpa [nameOf] using congrArg String.toList h
  have length := congrArg List.length none_left
  rw [List.length_append, List.length_replicate, List.length_nil] at length
  omega

theorem ne_empty_of_inputText {values : List (String × Json)} {name text : String}
    (given : inputText values name = .ok (some text)) : text ≠ "" := by
  rintro rfl
  unfold inputText at given
  split at given
  · cases given
  · cases given
  · cases given
  · rename_i filled found
    cases given
    exact filled rfl
  · cases given

theorem checkedIri_eq_ok_iff {iri argument subject : String} :
    checkedIri iri argument = .ok subject ↔ iri = subject ∧ Iri.isAbsolute iri = true := by
  rw [← Iri.checked_eq_ok_iff, checkedIri]
  cases Iri.checked iri with
  | error fault => exact iff_of_false nofun nofun
  | ok checked =>
    constructor
    · intro same
      rw [Except.ok.inj same]
    · intro same
      rw [Except.ok.inj same]
      rfl

section Minted

variable {σ : Type} {client : Client σ} {world after : World σ} {values : List (String × Json)}
  {container document subject name : String}

theorem ne_empty_of_returns_nameOrFresh
    (ran : (nameOrFresh values).Returns client world name after) : name ≠ "" := by
  obtain ⟨slug, given, ran⟩ := returns_lift_bind.1 ran
  cases slug with
  | some slug =>
    obtain ⟨rfl, -⟩ := returns_pure.1 ran
    exact ne_empty_of_inputText given
  | none =>
    obtain ⟨rfl, -⟩ := returns_freshName.1 ran
    exact Names.nameOf_ne_empty _

/-- The IRI of a new entity is absolute. -/
theorem isAbsolute_of_returns_mintSubject
    (ran : (mintSubject document values).Returns client world subject after) :
    Iri.isAbsolute subject = true := by
  obtain ⟨given, -, ran⟩ := returns_lift_bind.1 ran
  cases given with
  | some text =>
    obtain ⟨rfl, isAbsolute⟩ := checkedIri_eq_ok_iff.1 (returns_lift.1 ran).1
    exact isAbsolute
  | none =>
    obtain ⟨fragment, _, -, ran⟩ := returns_bind.1 ran
    obtain ⟨rfl, isAbsolute⟩ := checkedIri_eq_ok_iff.1 (returns_lift.1 ran).1
    exact isAbsolute

/-- The IRI that an input names for a new entity in a document, if it names one. -/
def namedIri? (document : String) (values : List (String × Json)) : Option String :=
  match inputText values identifierField, inputText values slugField with
  | .ok (some identifier), _ => some (absolute identifier document)
  | .ok none, .ok (some slug) => some (documentUrl document ++ "#" ++ slug)
  | _, _ => none

/-- The IRI of a new entity is the one that the input names, if it names one. -/
theorem eq_of_returns_mintSubject
    (ran : (mintSubject document values).Returns client world subject after) {iri : String}
    (named : namedIri? document values = some iri) : subject = iri := by
  obtain ⟨given, identifier, ran⟩ := returns_lift_bind.1 ran
  unfold namedIri? at named
  rw [identifier] at named
  cases given with
  | some text =>
    rw [← (checkedIri_eq_ok_iff.1 (returns_lift.1 ran).1).1]
    exact Option.some.inj named
  | none =>
    obtain ⟨fragment, _, drawn, ran⟩ := returns_bind.1 ran
    rw [← (checkedIri_eq_ok_iff.1 (returns_lift.1 ran).1).1]
    obtain ⟨slug, isSlug, drawn⟩ := returns_lift_bind.1 drawn
    rw [isSlug] at named
    cases slug with
    | some slug =>
      obtain ⟨rfl, -⟩ := returns_pure.1 drawn
      exact Option.some.inj named
    | none => cases named

/-! ### Documents -/

/-- The IRI of a new entity in a container is absolute, and its document is the new document. -/
theorem documentUrl_of_returns_mintDocument
    (ran : (mintDocument container values).Returns client world (document, subject) after) :
    documentUrl subject = document ∧ Iri.isAbsolute subject = true := by
  obtain ⟨given, -, ran⟩ := returns_lift_bind.1 ran
  cases given with
  | some text =>
    obtain ⟨minted, _, named, ran⟩ := returns_bind.1 ran
    dsimp only at ran
    split at ran
    · exact absurd ran not_returns_throw
    · obtain ⟨same, -⟩ := returns_pure.1 ran
      obtain ⟨rfl, rfl⟩ := Prod.mk.inj same
      exact ⟨rfl, isAbsolute_of_returns_mintSubject named⟩
  | none =>
    obtain ⟨name, _, -, ran⟩ := returns_bind.1 ran
    dsimp only at ran
    split at ran
    · exact absurd ran not_returns_throw
    · obtain ⟨checked, isIri, ran⟩ := returns_lift_bind.1 ran
      obtain ⟨same, -⟩ := returns_pure.1 ran
      obtain ⟨rfl, rfl⟩ := Prod.mk.inj same
      obtain ⟨rfl, isAbsolute⟩ := checkedIri_eq_ok_iff.1 isIri
      exact ⟨documentUrl_of_isAbsolute isAbsolute, isAbsolute⟩

/-- The document of the identifier that an input gives, if it gives one. -/
def givenDocument? (container : String) (values : List (String × Json)) : Option String :=
  match inputText values identifierField with
  | .ok (some identifier) => some (documentUrl (absolute identifier container))
  | _ => none

/-- A new document is not a container. It is directly below the container unless it is the document
of a given identifier that is not. -/
theorem minted_of_returns_mintDocument
    (ran : (mintDocument container values).Returns client world (document, subject) after) :
    document.toList.getLast? ≠ some '/' ∧
      (isDirectChild container document = true ↔
        (givenDocument? container values).all (isDirectChild container) = true) := by
  obtain ⟨given, identifier, ran⟩ := returns_lift_bind.1 ran
  unfold givenDocument?
  rw [identifier]
  cases given with
  | some text =>
    obtain ⟨minted, _, named, ran⟩ := returns_bind.1 ran
    have minted_eq : minted = absolute text container := by
      obtain ⟨given, again, named⟩ := returns_lift_bind.1 named
      obtain rfl : some text = given := Except.ok.inj (identifier.symm.trans again)
      exact (checkedIri_eq_ok_iff.1 (returns_lift.1 named).1).1.symm
    dsimp only at ran
    split at ran
    · exact absurd ran not_returns_throw
    · rename_i isDocument
      obtain ⟨same, -⟩ := returns_pure.1 ran
      obtain ⟨rfl, rfl⟩ := Prod.mk.inj same
      refine ⟨fun h => isDocument (by simp [h]), ?_⟩
      rw [minted_eq]
      rfl
  | none =>
    obtain ⟨name, _, drawn, ran⟩ := returns_bind.1 ran
    have filled : name ≠ "" := ne_empty_of_returns_nameOrFresh drawn
    dsimp only at ran
    split at ran
    · exact absurd ran not_returns_throw
    · rename_i segment
      obtain ⟨_, -, ran⟩ := returns_lift_bind.1 ran
      obtain ⟨same, -⟩ := returns_pure.1 ran
      obtain ⟨rfl, rfl⟩ := Prod.mk.inj same
      have segment : '/' ∉ name.toList := by
        intro h
        exact segment (List.any_eq_true.2 ⟨'/', h, rfl⟩)
      have last : (container ++ name).toList.getLast? = name.toList.getLast? := by
        have filled : name.toList ≠ [] := fun h => filled (String.toList_eq_nil_iff.1 h)
        rw [String.toList_append, List.getLast?_append,
          Option.or_of_isSome (List.getLast?_isSome.2 filled)]
      refine ⟨fun h => segment (List.mem_of_getLast? (last ▸ h)), ?_⟩
      simp [isDirectChild_append filled segment]

end Minted

end LinkedShapes.Resolution
