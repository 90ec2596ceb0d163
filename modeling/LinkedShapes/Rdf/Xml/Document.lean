import LinkedShapes.Rdf.Xml.Element

/-!
# RDF/XML documents

The triples that an RDF/XML document states. Elements stand for nodes and for properties in turn: the
elements inside a node element are its properties, and what is inside a property element is the value.
A triple of a property is stated where its element is closed, so an unfinished element states none.
-/

namespace LinkedShapes.Rdf.Xml

open Markup (Content)

/-- The name of a node element that says nothing of the class of its node. -/
def description : String := RdfSyntax.namespaceIri ++ "Description"

/-- What a property element is found to hold. -/
inductive Value where
  /-- Nothing so far. -/
  | nothing
  /-- A text. -/
  | text (value : String)
  /-- A node. -/
  | node (node : Node)

/-- Whether nothing but blanks may follow. -/
def Value.isSettled : Value → Bool
  | nothing => false
  | text value => !value.toList.all Markup.isBlank
  | node _ => true

/-- The term that a property element holds. -/
def Value.term (scope : Scope) (datatype : Option String) (value : Value) : Term :=
  let ofText (text : String) : Term :=
    match datatype with
    | some datatype => .literal (.typed text datatype)
    | none => .literal (textLiteral scope text)
  match value with
  | nothing => ofText ""
  | text value => ofText value
  | node n => .node n

/-- The opening tag of an element in markup. -/
def openingTag (name : String) (attributes : List (String × String)) : String :=
  "<" ++ name ++
    String.join (attributes.map fun (name, value) => " " ++ name ++ "=\"" ++ value ++ "\"") ++ ">"

namespace Reader

mutual

/-- Some contents as markup. -/
def markupOf : List Content → Reader String
  | [] => return ""
  | content :: contents => return (← markupOfOne content) ++ (← markupOf contents)

/-- An element or a text as markup. -/
def markupOfOne : Content → Reader String
  | .text written => return Markup.escape (← expanded written)
  | .element name attributes children _ =>
    return openingTag name attributes ++ (← markupOf children) ++ "</" ++ name ++ ">"

end

/-- Demands that a text is blank. -/
def demandBlank (written : String) : Reader Unit := demand (written.toList.all Markup.isBlank)

/-- The node that the attributes of a node element name. -/
def subjectOf (attributes : Attributes) : Reader Node := do
  match attributes.id, attributes.nodeId, attributes.about with
  | some iri, none, none | none, none, some iri => return .iri iri
  | none, some label, none => return .blank label
  | none, none, none => freshNode
  | _, _, _ => failure

/-- The node of a node element, after noting what its tag states. -/
def describedNode (scope : Scope) (iri : String) (attributes : Attributes) : Reader Node := do
  demand (!isReserved iri && Iri.isAbsolute iri)
  let subject ← subjectOf attributes
  let typed : List Triple := if iri = description then [] else [⟨subject, RdfSyntax.type, .iri iri⟩]
  state (attributeTriples scope attributes subject ++ typed)
  return subject

/-- The node that the attributes of a property element name, if they name one. -/
def objectOf (attributes : Attributes) : Reader Value := do
  match attributes.resource, attributes.nodeId with
  | some _, some _ => failure
  | some iri, none => return .node (.iri iri)
  | none, some label => return .node (.blank label)
  | none, none =>
    if attributes.properties.isEmpty && attributes.type.isNone then return .nothing
    else return .node (← freshNode)

/-- The IRI of the property of an element, and the number of members so far. -/
def propertyOf (iri : String) (members : Nat) : Reader (String × Nat) := do
  if iri = RdfSyntax.namespaceIri ++ "li" then
    return (RdfSyntax.namespaceIri ++ "_" ++ Number.natText (members + 1), members + 1)
  else
    demand (!isReserved iri && iri ≠ description && Iri.isAbsolute iri)
    return (iri, members)

/-- The list of some nodes; its cells are stated, the last one first. -/
def listOf (nodes : List Node) : Reader (Node × List Triple) :=
  nodes.foldrM (fun node (tail, triples) => do
    let cell ← freshNode
    return (cell, triples ++ [⟨cell, RdfSyntax.first, .node node⟩, ⟨cell, RdfSyntax.rest, .node tail⟩]))
    (.iri RdfSyntax.nil, [])

mutual

/-- The node of a node element, if it is finished; a text in its place must be blank. -/
def nodeElement (scope : Scope) : Content → Reader (Option Node)
  | .text written => do
    demandBlank written
    return none
  | .element name written children finished => do
    let (scope, iri, attributes) ← enter scope name written
    let subject ← describedNode scope iri attributes
    propertyElements scope subject 0 children
    return if finished then some subject else none

/-- The nodes of some node elements. -/
def nodeElements (scope : Scope) : List Content → Reader (List Node)
  | [] => return []
  | content :: contents => do
    let node ← nodeElement scope content
    return node.toList ++ (← nodeElements scope contents)

/-- The value that some contents are, after the value found so far. -/
def valueIn (scope : Scope) (value : Value) : List Content → Reader Value
  | [] => return value
  | content :: contents => do
    match content with
    | .text written =>
      let text ← expanded written
      if value.isSettled then
        demandBlank text
        valueIn scope value contents
      else valueIn scope (.text text) contents
    | .element name written children finished =>
      match ← nodeElement scope (.element name written children finished) with
      | none => valueIn scope value contents
      | some node =>
        demand (!value.isSettled)
        valueIn scope (.node node) contents

/-- A property of a subject, and the number of members of the subject with it; a text in its place must
be blank. -/
def propertyElement (scope : Scope) (subject : Node) (members : Nat) : Content → Reader Nat
  | .text written => do
    demandBlank written
    return members
  | .element name written children finished => do
    let (scope, iri, attributes) ← enter scope name written
    let (property, members) ← propertyOf iri members
    let conclude (triples : List Triple) (object : Term) : Reader Unit := do
      if finished then state (triples ++ named attributes.id ⟨subject, property, object⟩)
    match attributes.parseType with
    | .plain =>
      let value ← objectOf attributes
      if let .node object := value then
        state (attributeTriples scope attributes object)
      let value ← valueIn scope value children
      conclude [] (value.term scope attributes.datatype)
    | .resource =>
      let object ← freshNode
      state (named attributes.id ⟨subject, property, .node object⟩)
      propertyElements scope object 0 children
    | .collection =>
      let (list, cells) ← listOf (← nodeElements scope children)
      conclude cells (.node list)
    | .markup =>
      let markup ← markupOf children
      demand (!finished || markup ≠ "")
      conclude [] (.literal (.typed markup RdfSyntax.xmlLiteral))
    | .unknown => let _ ← markupOf children
    return members

/-- The properties of a subject, after the members found so far. -/
def propertyElements (scope : Scope) (subject : Node) (members : Nat) : List Content → Reader Unit
  | [] => return
  | content :: contents => do
    let members ← propertyElement scope subject members content
    propertyElements scope subject members contents

end

/-- The contents of a document: node elements, or elements that hold node elements. -/
def rootElement (scope : Scope) : Content → Reader Unit
  | .text written => demandBlank written
  | .element name written children _ => do
    let (scope, iri, attributes) ← enter scope name written
    if iri = RdfSyntax.namespaceIri ++ "RDF" then
      let _ ← nodeElements scope children
    else propertyElements scope (← describedNode scope iri attributes) 0 children

end Reader

/-! ### Documents -/

mutual

/-- The labels of blank nodes that some contents may write: the values of all attributes. -/
def writtenLabels : List Content → List String
  | [] => []
  | content :: contents => writtenLabelsOf content ++ writtenLabels contents

/-- The labels that an element may write. -/
def writtenLabelsOf : Content → List String
  | .text _ => []
  | .element _ attributes children _ => attributes.map Prod.snd ++ writtenLabels children

end

/-- The triples that a document states, and the number of the first label that was not made up;
none if the document is malformed. The labels that are made up start at the number `next`. -/
def readDocument? (base : Option String) (next : Nat) (text : String) :
    Option (List Triple × Nat) := do
  let document ← Markup.Document.read? text
  let start : Progress := ⟨document.entities, writtenLabels document.contents, next, [], []⟩
  let (_, progress) ← (document.contents.forM (Reader.rootElement (.ofBase base))).run start
  return (progress.triples.reverse, progress.next)

end LinkedShapes.Rdf.Xml
