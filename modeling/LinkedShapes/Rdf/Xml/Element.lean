import LinkedShapes.Iri.Resolution
import LinkedShapes.Markup.Content
import LinkedShapes.Rdf.BlankLabel
import LinkedShapes.Rdf.Turtle.Token

/-!
# Elements of RDF/XML

What the tag of an element says: the IRI of its name, the base and the language in it, and the attributes
that belong to the syntax. All other attributes are properties with texts as their values.
-/

namespace LinkedShapes.Rdf.Xml

/-- What a reader knows between two tags. -/
structure Progress where
  /-- The entities that the document declares. -/
  entities : List (String × String)
  /-- The labels of blank nodes that the document writes. -/
  written : List String
  /-- The number of the next label that is made up. -/
  next : Nat
  /-- The IRIs that were given by `rdf:ID`. -/
  identifiers : List String
  /-- The triples so far, the last one first. -/
  triples : List Triple

/-- A reader of a part of a document. -/
abbrev Reader := StateT Progress Option

/-- What holds inside an element. -/
structure Scope where
  /-- The namespaces by name, the innermost first; the one without a name has the empty name. -/
  namespaces : List (String × String)
  /-- The language of texts. -/
  language : Option String
  /-- The base of IRI references. -/
  base : Option String

/-- The scope of a document with a base. -/
def Scope.ofBase (base : Option String) : Scope :=
  ⟨[("xml", "http://www.w3.org/XML/1998/namespace"), ("xmlns", "http://www.w3.org/2000/xmlns/")],
    none, base⟩

/-- How the contents of a property element are read. -/
inductive ParseType where
  /-- As a node or a text. -/
  | plain
  /-- As the nodes of a list. -/
  | collection
  /-- As markup. -/
  | markup
  /-- As the properties of a node. -/
  | resource
  /-- Not at all. -/
  | unknown
  deriving DecidableEq, Inhabited

/-- The attributes of an element. -/
structure Attributes where
  /-- The IRI of `rdf:ID`. -/
  id : Option String := none
  /-- The label of `rdf:nodeID`. -/
  nodeId : Option String := none
  /-- The IRI of `rdf:about`. -/
  about : Option String := none
  /-- The IRI of `rdf:resource`. -/
  resource : Option String := none
  /-- The IRI of `rdf:datatype`. -/
  datatype : Option String := none
  /-- The IRI of `rdf:type`. -/
  type : Option String := none
  /-- The parse type. -/
  parseType : ParseType := .plain
  /-- The properties, with their values. -/
  properties : List (String × String) := []

/-- The term of the vocabulary of RDF that an IRI is, if it is one. -/
def vocabularyTerm? (iri : String) : Option String :=
  let start := RdfSyntax.namespaceIri.toList
  if start.isPrefixOf iri.toList then some (String.ofList (iri.toList.drop start.length)) else none

/-- The terms that are no names of nodes. -/
def reservedTerms : List String :=
  ["about", "aboutEach", "aboutEachPrefix", "bagID", "datatype", "ID", "li", "nodeID", "parseType", "RDF",
    "resource"]

/-- Whether an IRI is no name of a node. -/
def isReserved (iri : String) : Bool := (vocabularyTerm? iri).any (· ∈ reservedTerms)

/-- Whether a text is a name without a colon. -/
def isLocalName (name : String) : Bool :=
  match name.toList with
  | [] => false
  | first :: rest =>
    let starts := fun c => Turtle.isNameStart c || c = '_'
    starts first && rest.all fun c => Turtle.isNameChar c || c = '.'

namespace Reader

/-- Fails unless a condition holds. -/
def demand (condition : Bool) : Reader Unit := if condition then return else failure

/-- What a text with references stands for. -/
def expanded (written : String) : Reader String := do
  match Markup.expand? (← get).entities written with
  | some text => return text
  | none => failure

/-- Notes the triples of one tag, the last one first. -/
def state (triples : List Triple) : Reader Unit :=
  modify fun progress => { progress with triples := triples ++ progress.triples }

/-- A blank node with a label that is not in use. -/
def freshNode : Reader Node := do
  let progress ← get
  match BlankLabel.freshNumber? progress.written progress.next with
  | none => failure
  | some n =>
    set { progress with next := n + 1 }
    return .blank (BlankLabel.ofNumber n)

/-- The IRI that a reference stands for. -/
def resolve (base : Option String) (reference : String) : Reader String := do
  match base with
  | some base =>
    match Iri.resolve? base reference with
    | some iri => return iri
    | none => failure
  | none =>
    demand (Iri.isAbsolute reference)
    return reference

/-- The IRI of a name, whose namespace must be declared; a name without a namespace is in the one that
has no name if `unnamed` says so. -/
def nameIri (scope : Scope) (unnamed : Bool) (name : String) : Reader String := do
  let (space, rest) := Iri.splitBefore (· = ':') name.toList
  let (space, localName) ← match rest with
    | _ :: localName => pure (String.ofList space, localName)
    | [] => do
      demand unnamed
      pure ("", space)
  match scope.namespaces.lookup space with
  | none | some "" => failure
  | some start => expanded (start ++ String.ofList localName)

/-! ### Attributes -/

/-- The scope inside an element with an attribute; `written` is its value. -/
def declare (scope : Scope) (name written : String) : Reader Scope := do
  match name with
  | "xmlns" => return { scope with namespaces := ("", written) :: scope.namespaces }
  | "xml:lang" =>
    let tag := (← expanded written).toList.map Char.toLower
    demand (Text.isLanguageTag tag)
    return { scope with language := some (String.ofList tag) }
  | "xml:base" =>
    let base ← expanded written
    demand (Iri.isAbsolute base)
    return { scope with base := some base }
  | name =>
    if "xmlns:".toList.isPrefixOf name.toList then
      let space := String.ofList (name.toList.drop 6)
      return { scope with namespaces := (space, written) :: scope.namespaces }
    else return scope

/-- Whether an attribute declares something for the scope of its element. -/
def isDeclaration (name : String) : Bool := "xml".toList.isPrefixOf name.toList

/-- The parse type that an attribute names. -/
def parseTypeOf (written : String) : ParseType :=
  match written with
  | "Collection" => .collection
  | "Literal" => .markup
  | "Resource" => .resource
  | _ => .unknown

/-- The attributes with one more of them. -/
def addAttribute (scope : Scope) (attributes : Attributes) (name written : String) :
    Reader Attributes := do
  let iri ← nameIri scope false name
  let value ← expanded written
  match vocabularyTerm? iri with
  | some "ID" =>
    demand (isLocalName value)
    return { attributes with id := some (← resolve scope.base ("#" ++ value)) }
  | some "bagID" =>
    demand (isLocalName value)
    return attributes
  | some "nodeID" =>
    demand (isLocalName value)
    return { attributes with nodeId := some value }
  | some "about" => return { attributes with about := some (← resolve scope.base value) }
  | some "resource" => return { attributes with resource := some (← resolve scope.base value) }
  | some "datatype" => return { attributes with datatype := some (← resolve scope.base value) }
  | some "type" => return { attributes with type := some (← resolve scope.base value) }
  | some "parseType" => return { attributes with parseType := parseTypeOf written }
  | term =>
    demand (Iri.isAbsolute iri &&
      !(term.any (· ∈ ["aboutEach", "aboutEachPrefix", "li", "RDF"])))
    return { attributes with properties := attributes.properties ++ [(iri, value)] }

/-- The scope inside an element, the IRI of its name and its attributes. An IRI is given by `rdf:ID` only
once. -/
def enter (scope : Scope) (name : String) (written : List (String × String)) :
    Reader (Scope × String × Attributes) := do
  let scope ← (written.filter (isDeclaration ·.1)).foldlM
    (fun scope (name, value) => declare scope name value) scope
  let iri ← nameIri scope true name
  let attributes ← (written.filter (!isDeclaration ·.1)).foldlM
    (fun attributes (name, value) => addAttribute scope attributes name value) {}
  if let some id := attributes.id then
    let progress ← get
    demand (id ∉ progress.identifiers)
    set { progress with identifiers := id :: progress.identifiers }
  return (scope, iri, attributes)

end Reader

/-! ### Triples of a tag -/

/-- A literal in the language of a scope. -/
def textLiteral (scope : Scope) (value : String) : Literal :=
  match scope.language with
  | some language => .tagged value language
  | none => .simple value

/-- The triples that the attributes of an element state about a node. -/
def attributeTriples (scope : Scope) (attributes : Attributes) (subject : Node) : List Triple :=
  attributes.properties.map (fun (iri, value) =>
    ⟨subject, iri, .literal (textLiteral scope value)⟩) ++
  (attributes.type.map fun type => ⟨subject, RdfSyntax.type, .iri type⟩).toList

/-- A triple, after the statements about it if it is given a name. -/
def named (id : Option String) (triple : Triple) : List Triple :=
  match id with
  | none => [triple]
  | some id =>
    [⟨.iri id, RdfSyntax.type, .iri RdfSyntax.statement⟩,
      ⟨.iri id, RdfSyntax.subject, .node triple.subject⟩,
      ⟨.iri id, RdfSyntax.predicate, .iri triple.predicate⟩,
      ⟨.iri id, RdfSyntax.object, triple.object⟩,
      triple]

end LinkedShapes.Rdf.Xml
