import LinkedShapes.Markup.Reference

/-!
# Documents of markup

The contents of an XML document as a tree of elements and texts. A document may break off: an element
that is open at its end is kept and marked as unfinished.
-/

namespace LinkedShapes.Markup

/-- An element or a text. -/
inductive Content where
  /-- An element; `finished` says whether it was closed. -/
  | element (name : String) (attributes : List (String × String)) (children : List Content)
      (finished : Bool)
  /-- A text with references. -/
  | text (written : String)
  deriving Inhabited

/-- A document: the entities it declares and what it holds. -/
structure Document where
  /-- The entities, the latest first. -/
  entities : List (String × String)
  /-- The contents. -/
  contents : List Content

/-- An element that is open. -/
structure OpenElement where
  /-- The name. -/
  name : String
  /-- The attributes. -/
  attributes : List (String × String)
  /-- The contents that stand before the element, the last one first. -/
  before : List Content

/-- What a reader knows between two pieces. -/
structure Progress where
  /-- The entities that are declared, the latest first. -/
  entities : List (String × String)
  /-- The elements that are open, the innermost first. -/
  opened : List OpenElement
  /-- The contents of the innermost of them, the last one first. -/
  contents : List Content

/-- The progress after a piece; none if the piece must not stand there. -/
def Progress.step? (progress : Progress) (piece : Piece) : Option Progress :=
  match piece with
  | .opening name attributes =>
    some { progress with
      opened := ⟨name, attributes, progress.contents⟩ :: progress.opened
      contents := [] }
  | .closing name =>
    match progress.opened with
    | [] => none
    | element :: opened =>
      if element.name = name then
        some { progress with
          opened
          contents :=
            .element name element.attributes progress.contents.reverse true :: element.before }
      else none
  | .text written => some { progress with contents := .text written :: progress.contents }
  | .verbatim value => some { progress with contents := .text (escape value) :: progress.contents }
  | .declaration attributes =>
    match attributes.lookup "encoding" with
    | none => some progress
    | some encoding =>
      if encoding.toList.map Char.toLower ∈ ["utf-8".toList, "utf8".toList] then some progress
      else none
  | .doctype content =>
    (declaredEntities? progress.entities content).map fun entities => { progress with entities }

/-- The contents of a document, with the elements that are still open. -/
def Progress.allContents (progress : Progress) : List Content :=
  (progress.opened.foldl (fun contents element =>
    .element element.name element.attributes contents.reverse false :: element.before)
    progress.contents).reverse

/-- The document written in a text; none if it is malformed. -/
def Document.read? (text : String) : Option Document := do
  let pieces ← pieces? text
  let progress ← pieces.foldlM Progress.step? ⟨[], [], []⟩
  return ⟨progress.entities, progress.allContents⟩

end LinkedShapes.Markup
