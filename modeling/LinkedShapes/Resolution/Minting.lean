import LinkedShapes.Resolution.Context

/-!
# Minting

The IRIs of new entities. An identifier that is given is used, made absolute; otherwise a fragment or a
document is named after the slug that is given, or after a name that is drawn.
-/

namespace LinkedShapes.Resolution

open Rdf Ldp Schema

/-- The text that an input gives for a field; none if the field is left out or null. -/
def inputText (values : List (String × Json)) (name : String) :
    Except ResolveError (Option String) :=
  match Json.find? values name with
  | none => .ok none
  | some .null => .ok none
  | some (.string "") => .error (.invalidArgument name .emptyText)
  | some (.string text) => .ok (some text)
  | some _ => .error (.invalidArgument name .emptyText)

/-- The slug that an input gives, or a name that is drawn. -/
def nameOrFresh (values : List (String × Json)) : Attempt String := do
  match ← inputText values slugField with
  | some slug => return slug
  | none => Attempt.freshName

/-- An IRI that is said to be wrong under the name of an argument if it is not absolute. -/
def checkedIri (iri argument : String) : Except ResolveError String :=
  (Iri.checked iri).mapError fun fault => .invalidArgument argument (.notIri fault)

/-- The IRI of a new entity in a document: the identifier that is given, else a fragment. -/
def mintSubject (document : String) (values : List (String × Json)) : Attempt String := do
  match ← inputText values identifierField with
  | some identifier => checkedIri (absolute identifier document) identifierField
  | none =>
    let fragment ← nameOrFresh values
    checkedIri (documentUrl document ++ "#" ++ fragment) identifierField

/-- Whether a text has a character that ends the path of a URL or a segment of it. -/
def hasDelimiter (text : String) : Bool :=
  text.toList.any fun c => c = '/' || c = '#' || c = '?'

/-- The URL of a new document in a container and the IRI of the entity that it holds. The document is
named after the slug; an identifier that is given names the document by its part before the
fragment, which must not be a container. -/
def mintDocument (container : String) (values : List (String × Json)) :
    Attempt (String × String) := do
  match ← inputText values identifierField with
  | some _ =>
    let subject ← mintSubject container values
    let document := documentUrl subject
    if document = container || document.toList.getLast? = some '/' then
      throw (.invalidArgument identifierField (.notInDocument subject container))
    return (document, subject)
  | none =>
    let name ← nameOrFresh values
    if hasDelimiter name then
      throw (.invalidArgument slugField (.notDocumentName name))
    let document := container ++ name
    let subject ← checkedIri (document ++ "#" ++ name) slugField
    return (document, subject)

end LinkedShapes.Resolution
