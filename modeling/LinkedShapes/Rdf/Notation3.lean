import LinkedShapes.Rdf.Turtle.Document

/-!
# Notation 3 documents

The triples that a Notation 3 document states. Beside what Turtle has, any part of a statement may be a
path, a formula or a variable, and predicates may be turned around. A formula stands for a blank node,
and what is said in it is stated as well. A document that states something that is no triple (of a
literal, by a blank node, or of a variable) is malformed.

## Main statements

* `Item.toTriple?_eq_some_iff`: the parts that make a triple.
-/

namespace LinkedShapes.Rdf.Notation3

open Turtle (Token Progress Reader)
open Turtle.Reader

/-- A part of a statement. -/
inductive Item where
  /-- A term. -/
  | term (value : Term)
  /-- A variable. -/
  | variable (name : String)
  deriving DecidableEq, Inhabited

namespace Item

/-- The item that is the resource of an IRI. -/
def iri (text : String) : Item := .term (.iri text)

/-- The item that is a node. -/
def node (value : Node) : Item := .term (.node value)

/-- The triple of three parts; none if they make none. -/
def toTriple? : Item → Item → Item → Option Triple
  | .term (.node subject), .term (.node (.iri predicate)), .term object =>
    some ⟨subject, predicate, object⟩
  | _, _, _ => none

theorem toTriple?_eq_some_iff {subject predicate object : Item} {triple : Triple} :
    toTriple? subject predicate object = some triple ↔
      subject = .node triple.subject ∧ predicate = .iri triple.predicate ∧
        object = .term triple.object := by
  constructor
  · intro h
    unfold toTriple? at h
    split at h
    · obtain rfl := Option.some.inj h
      exact ⟨rfl, rfl, rfl⟩
    · cases h
  · rintro ⟨rfl, rfl, rfl⟩
    rfl

end Item

/-- A predicate, which may be turned around. -/
structure Verb where
  /-- The predicate. -/
  predicate : Item
  /-- Whether the object is what is described. -/
  inverted : Bool := false

/-- The predicate of an equals sign. -/
def sameAs : String := "http://www.w3.org/2002/07/owl#sameAs"

/-- The predicate of an arrow. -/
def implies : String := "http://www.w3.org/2000/10/swap/log#implies"

/-- States that three parts make a triple. -/
def stateItems (subject predicate object : Item) : Reader Unit := do
  let triple ← StateT.lift (Item.toTriple? subject predicate object)
  state triple.subject triple.predicate triple.object

/-- States that an object is related to what is described. -/
def stateVerb (subject : Item) (verb : Verb) (object : Item) : Reader Unit :=
  if verb.inverted then stateItems object verb.predicate subject
  else stateItems subject verb.predicate object

/-- Uses up the next token if it is another one, and says whether it was. -/
def acceptToken (token : Token) : Reader Bool := do
  if (← peek) = some token then
    let _ ← take
    return true
  else return false

/-- A declaration that is written with a keyword and no dot; says whether there was one. -/
def bareDeclaration : Reader Bool := do
  match ← peek with
  | some (.word word) =>
    if isKeyword "prefix" word then
      let _ ← take
      declareNamespace
      return true
    else if isKeyword "base" word then
      let _ ← take
      declareBase
      return true
    else return false
  | _ => return false

/-- A declaration that is written with an at sign and a dot; says whether there was one. The dot is
not used up. -/
def dottedDeclaration : Reader Bool := do
  match ← peek with
  | some (.tag "prefix") =>
    let _ ← take
    declareNamespace
    return true
  | some (.tag "base") =>
    let _ ← take
    declareBase
    return true
  | _ => return false

mutual
/-- A part of a statement: an item, and steps away from it. -/
def path : Nat → Reader Item
  | 0 => failure
  | fuel + 1 => do steps fuel (← item fuel)
/-- Steps away from an item: along a predicate, or against it. -/
def steps : Nat → Item → Reader Item
  | 0, _ => failure
  | fuel + 1, start => do
    if ← accept '!' then
      let predicate ← item fuel
      let next := Item.node (← freshNode)
      stateItems start predicate next
      steps fuel next
    else if ← accept '^' then
      let predicate ← item fuel
      let next := Item.node (← freshNode)
      stateItems next predicate start
      steps fuel next
    else return start
/-- An item. -/
def item : Nat → Reader Item
  | 0 => failure
  | fuel + 1 => do
    match ← take with
    | .blank label => return .term (.blank label)
    | .variable name => return .variable name
    | .text value _ => return .term (.literal (← literal value))
    | .number value datatype => return .term (.literal (.typed value datatype))
    | .word "true" => return .term (.literal (.typed "true" Xsd.boolean))
    | .word "false" => return .term (.literal (.typed "false" Xsd.boolean))
    | .mark '[' => propertyList fuel
    | .mark '(' => if ← accept ')' then return .iri RdfSyntax.nil else collection fuel
    | .mark '\x7b' => formula fuel
    | token => return .iri (← iriOf token)
/-- What is described up to a closing bracket: a resource that is named, or a blank node. -/
def propertyList : Nat → Reader Item
  | 0 => failure
  | fuel + 1 => do
    if ← accept ']' then return .node (← freshNode)
    let subject ←
      if ← acceptToken (.word "id") then pure (Item.iri (← iriOf (← take)))
      else pure (Item.node (← freshNode))
    description fuel subject
    expect ']'
    return subject
/-- The list of the items up to a closing parenthesis, one at least. -/
def collection : Nat → Reader Item
  | 0 => failure
  | fuel + 1 => do
    let first ← path fuel
    let list := Item.node (← freshNode)
    stateItems list (.iri RdfSyntax.first) first
    let rest ← if ← accept ')' then pure (Item.iri RdfSyntax.nil) else collection fuel
    stateItems list (.iri RdfSyntax.rest) rest
    return list
/-- The formula up to a closing brace. -/
def formula : Nat → Reader Item
  | 0 => failure
  | fuel + 1 => do
    if ← accept '\x7d' then return .node (← freshNode)
    if ← bareDeclaration then formula fuel
    else
      unless ← dottedDeclaration do statements fuel
      if ← accept '.' then formula fuel
      else
        expect '\x7d'
        return .node (← freshNode)
/-- A subject with its description, which may be missing. -/
def statements : Nat → Reader Unit
  | 0 => failure
  | fuel + 1 => do
    let subject ← path fuel
    unless ← atClosing do description fuel subject
/-- Predicates with their objects. -/
def description : Nat → Item → Reader Unit
  | 0, _ => failure
  | fuel + 1, subject => do
    objects fuel subject (← verb fuel)
    if ← accept ';' then
      skipSemicolons (fuel + 1)
      unless ← atClosing do description fuel subject
/-- A predicate. -/
def verb : Nat → Reader Verb
  | 0 => failure
  | fuel + 1 => do
    match ← peek with
    | some (.word "a") => let _ ← take; return ⟨.iri RdfSyntax.type, false⟩
    | some (.word "has") => let _ ← take; return ⟨← path fuel, false⟩
    | some (.word "is") =>
      let _ ← take
      let predicate ← path fuel
      unless ← acceptToken (.word "of") do failure
      return ⟨predicate, true⟩
    | some (.mark '=') => let _ ← take; return ⟨.iri sameAs, false⟩
    | some (.arrow "=>") => let _ ← take; return ⟨.iri implies, false⟩
    | some (.arrow "<=") => let _ ← take; return ⟨.iri implies, true⟩
    | some (.arrow "<-") => let _ ← take; return ⟨← path fuel, true⟩
    | _ => return ⟨← path fuel, false⟩
/-- The objects of a predicate. -/
def objects : Nat → Item → Verb → Reader Unit
  | 0, _, _ => failure
  | fuel + 1, subject, verb => do
    stateVerb subject verb (← path fuel)
    if ← accept ',' then objects fuel subject verb
end

/-- The statements up to the end of a document. Each token is used up after a few steps. -/
def document : Nat → Reader Unit
  | 0 => failure
  | fuel + 1 => do
    let remaining := (← get).tokens.length
    if remaining = 0 then return
    unless ← bareDeclaration do
      unless ← dottedDeclaration do statements (8 * remaining + 8)
      expect '.'
    document fuel

/-- The triples that a document states, and the number of the first label that was not made up;
none if the document is malformed. The labels that are made up start at the number `next`. -/
def readDocument? (base : Option String) (next : Nat) (text : String) :
    Option (List Triple × Nat) := do
  let tokens ← Turtle.tokens? text
  let start : Progress := ⟨tokens, base, [], Turtle.writtenLabels tokens, next, []⟩
  let (_, progress) ← (document (tokens.length + 1)).run start
  return (progress.triples.reverse, progress.next)

end LinkedShapes.Rdf.Notation3
