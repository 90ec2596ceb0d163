import LinkedShapes.Iri.Fault
import LinkedShapes.Iri.Resolution
import LinkedShapes.Json.Value
import LinkedShapes.Ldp.Resource

/-!
# Identifiers

The text that an entity is known by outside. An entity with an IRI is known by the IRI, made absolute
against the URL of its document, and a blank node by its label.

## Main statements

* `absolute_of_isAbsolute`: an absolute IRI is left as it is.
-/

namespace LinkedShapes.Resolution

open Rdf Ldp

/-- An identifier as an absolute IRI, where this can be done: nothing stands for the URL of the
document, a fragment is added to it, and any other reference is resolved against it. -/
def absolute (identifier url : String) : String :=
  if identifier = "" then url
  else if identifier.toList.head? = some '#' then documentUrl url ++ identifier
  else if Iri.isAbsolute identifier then identifier
  else (Iri.resolve? url identifier).getD identifier

/-- The identifier of a node found in the document at a URL. -/
def identifierOf (node : Node) (url : String) : String :=
  match node with
  | .iri text => absolute text url
  | .blank _ => node.text

/-- The IRI that a value given as an identifier stands for, or what is wrong with the text that it
becomes; none if the value is not a text. -/
def identifierIri? (value : Json) (url : String) : Option (Except Iri.Fault String) :=
  value.string?.map fun text => Iri.checked (absolute text url)

/-- An absolute IRI is left as it is. -/
theorem absolute_of_isAbsolute {identifier : String} (h : Iri.isAbsolute identifier = true)
    (url : String) : absolute identifier url = identifier := by
  have hne : identifier ≠ "" := by
    rintro rfl
    revert h
    decide
  have hhash : identifier.toList.head? ≠ some '#' := by
    intro hh
    rcases hl : identifier.toList with _ | ⟨c, rest⟩
    · simp [hl] at hh
    · have hc : c = '#' := by simpa [hl] using hh
      subst hc
      simp only [Iri.isAbsolute, hl, Iri.Reference.split, Bool.and_eq_true] at h
      have := h.1
      revert this
      rcases hs : Iri.splitBefore (· = ':') ('#' :: rest) with ⟨before, _ | ⟨d, tail⟩⟩
      · simp [Iri.Reference.splitScheme, hs]
      · have hb : before = ('#' :: rest).takeWhile (fun c => !decide (c = ':')) :=
          (congrArg Prod.fst hs).symm
        have : Iri.isScheme before = false := by
          rw [hb]
          rfl
        simp [Iri.Reference.splitScheme, hs, this]
  simp [absolute, hne, hhash, h]

end LinkedShapes.Resolution
