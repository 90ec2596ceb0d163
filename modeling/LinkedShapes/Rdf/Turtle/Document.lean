import LinkedShapes.Iri.Resolution
import LinkedShapes.Rdf.BlankLabel
import LinkedShapes.Rdf.Turtle.Token

/-!
# Turtle documents

The triples that a Turtle document states, in the order in which it states them. IRIs are resolved
against the base, and without a base they must be absolute. Labels of blank nodes are kept as they are
written; a node without a label gets a label that the document does not write.

TriG is Turtle with triples put into named graphs by braces. The names are dropped here, so a TriG
document states the triples of all its graphs.
-/

namespace LinkedShapes.Rdf.Turtle

/-- What a reader knows between two tokens. -/
structure Progress where
  /-- The tokens to come. -/
  tokens : List Token
  /-- The base of IRI references, if there is one. -/
  base : Option String
  /-- The namespaces by name, the latest first. -/
  namespaces : List (String × String)
  /-- The labels that the document writes. -/
  written : List String
  /-- The number of the next label that is made up. -/
  next : Nat
  /-- The triples so far, the last one first. -/
  triples : List Triple

/-- A reader of a part of a document. -/
abbrev Reader := StateT Progress Option

namespace Reader

/-- The next token, which is used up. -/
def take : Reader Token := do
  let progress ← get
  match progress.tokens with
  | [] => failure
  | token :: rest => set { progress with tokens := rest }; return token

/-- The next token, if there is one; it is not used up. -/
def peek : Reader (Option Token) := return (← get).tokens.head?

/-- Uses up the next token if it is a mark, and says whether it was. -/
def accept (c : Char) : Reader Bool := do
  if (← peek) = some (.mark c) then
    let _ ← take
    return true
  else return false

/-- Uses up a mark, which must be there. -/
def expect (c : Char) : Reader Unit := do
  unless ← accept c do failure

/-- Notes a triple. -/
def state (subject : Node) (predicate : String) (object : Term) : Reader Unit :=
  modify fun progress =>
    { progress with triples := ⟨subject, predicate, object⟩ :: progress.triples }

/-- A blank node with a label that is not in use. -/
def freshNode : Reader Node := do
  let progress ← get
  match BlankLabel.freshNumber? progress.written progress.next with
  | none => failure
  | some n =>
    set { progress with next := n + 1 }
    return .blank (BlankLabel.ofNumber n)

/-- The IRI that a reference stands for. -/
def resolve (reference : String) : Reader String := do
  match (← get).base with
  | some base =>
    match Iri.resolve? base reference with
    | some iri => return iri
    | none => failure
  | none => if Iri.isAbsolute reference then return reference else failure

/-- The IRI that a prefixed name stands for. -/
def expand (space name : String) : Reader String := do
  match (← get).namespaces.find? (·.1 = space) with
  | none => failure
  | some (_, start) =>
    let iri := start ++ name
    if Iri.isAbsolute iri then return iri else failure

/-- The IRI that a token stands for. -/
def iriOf : Token → Reader String
  | .iri text => resolve text
  | .prefixed space name => expand space name
  | _ => failure

/-- A predicate. -/
def predicate : Reader String := do
  match ← take with
  | .word "a" => return RdfSyntax.type
  | token => iriOf token

/-- A literal of a text, with the tag or the datatype that may follow. -/
def literal (value : String) : Reader Literal := do
  match ← peek with
  | some (.tag language) =>
    let _ ← take
    return .tagged value (String.ofList (language.toList.map Char.toLower))
  | some .datatypeMark =>
    let _ ← take
    return .typed value (← iriOf (← take))
  | _ => return .simple value

/-- Uses up all semicolons to come. -/
def skipSemicolons : Nat → Reader Unit
  | 0 => failure
  | fuel + 1 => do if ← accept ';' then skipSemicolons fuel

/-- Whether the next token closes a list of predicates and objects. -/
def atClosing : Reader Bool := do
  match ← peek with
  | some (.mark c) => return c ∈ ['.', ']', '\x7d', ')']
  | _ => return false

mutual
/-- An object. -/
def object : Nat → Reader Term
  | 0 => failure
  | fuel + 1 => do
    match ← take with
    | .blank label => return .blank label
    | .text value _ => return .literal (← literal value)
    | .number value datatype => return .literal (.typed value datatype)
    | .word "true" => return .literal (.typed "true" Xsd.boolean)
    | .word "false" => return .literal (.typed "false" Xsd.boolean)
    | .mark '[' => return .node (← bracketed fuel)
    | .mark '(' => return .node (← collection fuel)
    | token => return .iri (← iriOf token)
/-- The node described up to a closing bracket. -/
def bracketed : Nat → Reader Node
  | 0 => failure
  | fuel + 1 => do
    let node ← freshNode
    if ← accept ']' then return node
    description fuel node
    expect ']'
    return node
/-- The list of the items up to a closing parenthesis. -/
def collection : Nat → Reader Node
  | 0 => failure
  | fuel + 1 => do
    if ← accept ')' then return .iri RdfSyntax.nil
    let item ← object fuel
    let node ← freshNode
    state node RdfSyntax.first item
    let rest ← collection fuel
    state node RdfSyntax.rest (.node rest)
    return node
/-- Predicates with their objects. -/
def description : Nat → Node → Reader Unit
  | 0, _ => failure
  | fuel + 1, subject => do
    objects fuel subject (← predicate)
    if ← accept ';' then
      skipSemicolons (fuel + 1)
      unless ← atClosing do description fuel subject
/-- The objects of a predicate. -/
def objects : Nat → Node → String → Reader Unit
  | 0, _, _ => failure
  | fuel + 1, subject, predicate => do
    state subject predicate (← object fuel)
    if ← accept ',' then objects fuel subject predicate
end

/-- The bound on the steps for the tokens to come: each step uses up a token or is followed by one
that does. -/
def bound : Reader Nat := return 4 * (← get).tokens.length + 4

/-- A subject with its description; the description may be missing after a bracket. -/
def triples : Reader Unit := do
  let fuel ← bound
  match ← take with
  | .mark '[' =>
    let isEmpty := (← peek) = some (.mark ']')
    let node ← bracketed fuel
    unless !isEmpty && (← atClosing) do description fuel node
  | .mark '(' => description fuel (← collection fuel)
  | .blank label => description fuel (.blank label)
  | token => description fuel (.iri (← iriOf token))

/-- The IRI of a base or a namespace. -/
def declaredIri : Reader String := do
  match ← take with
  | .iri text => resolve text
  | _ => failure

/-- A declaration of the base. -/
def declareBase : Reader Unit := do
  let iri ← declaredIri
  modify fun progress => { progress with base := some iri }

/-- A declaration of a namespace. -/
def declareNamespace : Reader Unit := do
  match ← take with
  | .prefixed space "" =>
    let iri ← declaredIri
    modify fun progress => { progress with namespaces := (space, iri) :: progress.namespaces }
  | _ => failure

/-- Triples up to a closing brace, with dots between them. -/
def graphBlock : Nat → Reader Unit
  | 0 => failure
  | fuel + 1 => do
    unless ← accept '\x7d' do
      triples
      if ← accept '.' then graphBlock fuel else expect '\x7d'

/-- The name of a graph, which stands before its opening brace. -/
def graphName : Reader Unit := do
  match ← take with
  | .mark '[' => expect ']'
  | .blank _ => return
  | token => let _ ← iriOf token

/-- Whether a word is a keyword, written in letters of either case. -/
def isKeyword (keyword word : String) : Bool :=
  word.toList.map Char.toLower = keyword.toList

/-- Whether the tokens to come start a graph with a name. -/
def atNamedGraph : Reader Bool := do
  match (← get).tokens with
  | .mark '[' :: .mark ']' :: .mark '\x7b' :: _ => return true
  | .mark '[' :: _ => return false
  | _ :: .mark '\x7b' :: _ => return true
  | _ => return false

/-- A statement of a document; `graphs` says whether triples may stand in graphs. -/
def statement (graphs : Bool) : Reader Unit := do
  let blockBound ← bound
  match ← peek with
  | some (.tag "prefix") => let _ ← take; declareNamespace; expect '.'
  | some (.tag "base") => let _ ← take; declareBase; expect '.'
  | some (.word word) =>
    let _ ← take
    if isKeyword "prefix" word then declareNamespace
    else if isKeyword "base" word then declareBase
    else if graphs && isKeyword "graph" word then
      graphName
      expect '\x7b'
      graphBlock blockBound
    else failure
  | _ =>
    if graphs && (← accept '\x7b') then graphBlock blockBound
    else if graphs && (← atNamedGraph) then
      graphName
      expect '\x7b'
      graphBlock blockBound
    else
      triples
      expect '.'

/-- The statements up to the end of a document. -/
def statements (graphs : Bool) : Nat → Reader Unit
  | 0 => failure
  | fuel + 1 => do
    if (← get).tokens.isEmpty then return
    statement graphs
    statements graphs fuel

end Reader

/-- The labels of blank nodes among some tokens. -/
def writtenLabels (tokens : List Token) : List String :=
  tokens.filterMap fun token =>
    match token with
    | .blank label => some label
    | _ => none

/-- The triples that a document states, and the number of the first label that was not made up;
none if the document is malformed. The labels that are made up start at the number `next`. -/
def readDocument? (graphs : Bool) (base : Option String) (next : Nat) (text : String) :
    Option (List Triple × Nat) := do
  let tokens ← tokens? text
  let start : Progress := ⟨tokens, base, [], writtenLabels tokens, next, []⟩
  let (_, progress) ← (Reader.statements graphs (tokens.length + 1)).run start
  return (progress.triples.reverse, progress.next)

end LinkedShapes.Rdf.Turtle
