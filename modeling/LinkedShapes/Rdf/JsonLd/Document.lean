import LinkedShapes.Json.Printer
import LinkedShapes.Json.Reader
import LinkedShapes.Rdf.BlankLabel
import LinkedShapes.Rdf.JsonLd.Context
import LinkedShapes.Rdf.Term

/-!
# JSON-LD documents

The triples that a JSON-LD document states: an object describes a resource, and each of its members
relates the resource to values, as the contexts around it say. What names no resource is left out with
the triples that it would be part of. The names of graphs are dropped.
-/

namespace LinkedShapes.Rdf.JsonLd

open Number (Binary64)

/-- What is known while a document is read. -/
structure Progress where
  /-- The labels that the document writes. -/
  written : List String
  /-- The number of the next label that is made up. -/
  next : Nat
  /-- The triples so far, the last one first. -/
  triples : List Triple

/-- A reader of a part of a document. -/
abbrev Reader := StateT Progress Option

/-! ### Literals -/

/-- The digits of a number that has no fraction and is below 10 to the power of 21. -/
def wholeText? (x : Binary64) : Option String :=
  let (numerator, denominator) := x.ratio
  if numerator % denominator = 0 ∧ numerator / denominator < Nat.pow 10 21 then
    let magnitude : Int := numerator / denominator
    some (Number.intText (if x.negative then -magnitude else magnitude))
  else none

/-- A number with one digit before the point, and an exponent. -/
def scientificText (x : Binary64) : String :=
  let sign := if x.negative then "-" else ""
  if x.significand = 0 then sign ++ "0.0E0"
  else
    let (coefficient, power) := x.shortest
    let all := Number.digits coefficient
    let kept := (all.reverse.dropWhile (· = '0')).reverse
    let fraction := if kept.length ≤ 1 then ['0'] else kept.drop 1
    let exponent := power + (all.length - 1 : Nat)
    sign ++ String.ofList (kept.take 1 ++ '.' :: fraction) ++ "E" ++ Number.intText exponent

/-- The lexical value and the datatype of a scalar, where numbers may have to be doubles. -/
def lexical? (doubles : Bool) : Json → Option (String × String)
  | .string text => some (text, Xsd.string)
  | .bool value => some (if value then "true" else "false", Xsd.boolean)
  | .int n =>
    match doubles, Binary64.ofInt? n with
    | true, some x => some (scientificText x, Xsd.double)
    | _, _ => some (Number.intText n, Xsd.integer)
  | .float x =>
    match doubles, wholeText? x with
    | false, some text => some (text, Xsd.integer)
    | _, _ => some (scientificText x, Xsd.double)
  | _ => none

/-- The literal of a scalar that is taken for a datatype, or for what it is by itself. -/
def literalOf (datatype : Option String) (value : Json) : Option Literal :=
  (lexical? (datatype = some Xsd.double) value).map fun (text, own) =>
    .typed text (datatype.getD own)

/-- The literal that holds a value as it is. -/
def jsonLiteral (value : Json) : Literal :=
  .typed value.canonical.text (RdfSyntax.namespaceIri ++ "JSON")

/-- The literal of a text in a language. -/
def textIn (language : Option String) (text : String) : Literal :=
  match language with
  | some tag => .tagged text tag
  | none => .simple text

/-! ### Resources -/

/-- The node that a text names. -/
def node? (text : String) : Option Node :=
  if isBlankLabel text then some (.blank (String.ofList (text.toList.drop 2)))
  else if Iri.isAbsolute text then some (.iri text)
  else none

/-- The items of a list, or a value by itself. -/
def itemsOf : Json → List Json
  | .array items => items
  | value => [value]

/-- The value of the first member whose name stands for a keyword. -/
def memberFor? (context : Context) (members : List (String × Json)) (keyword : String) :
    Option Json :=
  (members.find? fun member => context.expand true false member.1 = some keyword).map Prod.snd

/-- What a definition takes values for; `@none` takes them for what they are by themselves. -/
def coercionOf (definition : Option TermDefinition) : Option String :=
  (definition.bind TermDefinition.coercion).filter (· ≠ "@none")

/-- The term that a scalar stands for, as a definition takes it. -/
def scalar? (context : Context) (definition : Option TermDefinition) (value : Json) : Option Term :=
  match coercionOf definition, value with
  | some "@json", value => some (.literal (jsonLiteral value))
  | some "@id", .string text => ((context.expand false true text).bind node?).map .node
  | some "@vocab", .string text => ((context.expand true true text).bind node?).map .node
  | some "@id", value | some "@vocab", value => (literalOf none value).map .literal
  | some datatype, value => (literalOf datatype value).map .literal
  | none, .string text =>
    let language := (definition.bind TermDefinition.language).getD context.language
    some (.literal (textIn language text))
  | none, value => (literalOf none value).map .literal

/-- The term of an object that writes a literal. -/
def writtenLiteral (context : Context) (members : List (String × Json)) (value : Json) :
    Reader (Option Term) :=
  match memberFor? context members "@type", memberFor? context members "@language", value with
  | some (.string type), none, value =>
    match context.expand true true type with
    | some "@json" => return some (.literal (jsonLiteral value))
    | some datatype =>
      if Iri.isAbsolute datatype then return (literalOf datatype value).map .literal
      else return none
    | none => return none
  | none, some (.string tag), .string text =>
    return some (.literal (textIn (some (String.ofList (tag.toList.map Char.toLower))) text))
  | none, none, value => return (literalOf none value).map .literal
  | _, _, _ => failure

namespace Reader

/-- A blank node with a label that is not in use. -/
def freshNode : Reader Node := do
  let progress ← get
  match BlankLabel.freshNumber? progress.written progress.next with
  | none => failure
  | some n =>
    set { progress with next := n + 1 }
    return .blank (BlankLabel.ofNumber n)

/-- Notes a triple, if its subject and predicate name resources. -/
def state (subject : Option Node) (predicate : String) (object : Term) : Reader Unit :=
  match subject with
  | some subject =>
    if Iri.isAbsolute predicate then
      modify fun progress =>
        { progress with triples := ⟨subject, predicate, object⟩ :: progress.triples }
    else return
  | none => return

/-- The list of some items. -/
def list : List Term → Reader Node
  | [] => return .iri RdfSyntax.nil
  | item :: rest => do
    let node ← freshNode
    state (some node) RdfSyntax.first item
    state (some node) RdfSyntax.rest (.node (← list rest))
    return node

/-- Notes that a resource is related to some terms, or that these are related to it. -/
def relate (subject : Option Node) (predicate : String) (reversed : Bool) (terms : List Term) :
    Reader Unit :=
  terms.forM fun term =>
    if reversed then
      match subject with
      | some subject => state term.node? predicate (.node subject)
      | none => return
    else state subject predicate term

mutual
/-- The terms that a value stands for, as a definition takes it; `base` is the base of the
document. -/
def values (base : Option String) (context : Context) (definition : Option TermDefinition) :
    Nat → Json → Reader (List Term)
  | 0, _ => failure
  | fuel + 1, value => do
    if coercionOf definition = some "@json" then return [.literal (jsonLiteral value)]
    match value with
    | .null => return []
    | .array items => return (← items.mapM (values base context definition fuel)).flatten
    | .object members =>
      let context ← match Json.find? members "@context" with
        | some added => StateT.lift (context.extend? base added)
        | none => pure context
      match memberFor? context members "@value", memberFor? context members "@list",
        memberFor? context members "@set" with
      | some .null, _, _ => return []
      | some value, _, _ => return (← writtenLiteral context members value).toList
      | none, some items, _ =>
        let terms ← (itemsOf items).mapM (values base context definition fuel)
        return [.node (← list terms.flatten)]
      | none, none, some items => values base context definition fuel items
      | none, none, none => return ((← resource base context fuel members).map .node).toList
    | value => return (scalar? context definition value).toList
/-- The terms that the value of a member stands for, as the containers of its definition hold them. -/
def held (base : Option String) (context : Context) (definition : Option TermDefinition) :
    Nat → Json → Reader (List Term)
  | 0, _ => failure
  | fuel + 1, value => do
    let context ← match definition.bind TermDefinition.scope with
      | some added => StateT.lift (context.extend? base added)
      | none => pure context
    let containers := (definition.map TermDefinition.containers).getD []
    let isList := match value with
      | .object members => (memberFor? context members "@list").isSome
      | _ => false
    if "@list" ∈ containers && !isList && coercionOf definition ≠ some "@json" then
      let terms ← (itemsOf value).mapM (values base context definition fuel)
      return [.node (← list terms.flatten)]
    else if "@graph" ∈ containers then
      (itemsOf value).mapM fun item => do
        graph base context fuel item
        return .node (← freshNode)
    else
      match value with
      | .object members =>
        if "@language" ∈ containers then
          return members.flatMap fun (tag, texts) =>
            let language := if context.expand true false tag = some "@none" then none
              else some (String.ofList (tag.toList.map Char.toLower))
            ((texts? texts).getD []).map fun text => .literal (textIn language text)
        else if "@index" ∈ containers then
          return (← members.mapM fun (_, value) =>
            values base context definition fuel value).flatten
        else if "@id" ∈ containers then
          return (← members.mapM fun (name, value) =>
            match value with
            | .object inner =>
              values base context definition fuel (.object (("@id", .string name) :: inner))
            | _ => failure).flatten
        else values base context definition fuel value
      | value => values base context definition fuel value
/-- The resource that the members of an object describe; none if it is named by what names no
resource. -/
def resource (base : Option String) (context : Context) :
    Nat → List (String × Json) → Reader (Option Node)
  | 0, _ => failure
  | fuel + 1, members => do
    let subject ← match memberFor? context members "@id" with
      | some (.string text) => pure ((context.expand false true text).bind node?)
      | some _ => failure
      | none => some <$> freshNode
    describe base context fuel subject members
    return subject
/-- States what members say of a resource. -/
def describe (base : Option String) (context : Context) :
    Nat → Option Node → List (String × Json) → Reader Unit
  | 0, _, _ => failure
  | fuel + 1, subject, members =>
    members.forM fun (name, value) =>
      match context.expand true false name with
      | none => return
      | some "@type" => do
        let types ← StateT.lift (texts? value)
        let nodes := types.filterMap fun type => (context.expand true true type).bind node?
        relate subject RdfSyntax.type false (nodes.map .node)
      | some "@graph" | some "@included" => graph base context fuel value
      | some "@nest" =>
        (itemsOf value).forM fun nested =>
          match nested with
          | .object members => describe base context fuel subject members
          | _ => failure
      | some "@reverse" =>
        match value with
        | .object members =>
          members.forM fun (name, value) => do
            match context.expand true false name with
            | some iri =>
              let terms ← held base context (context.term? name) fuel value
              relate subject iri true terms
            | none => return
        | _ => failure
      | some iri => do
        if isKeyword iri || !iri.toList.any (· = ':') then return
        let definition := context.term? name
        let terms ← held base context definition fuel value
        relate subject iri ((definition.map TermDefinition.reversed).getD false) terms
/-- States what the resources of a graph are said to be. -/
def graph (base : Option String) (context : Context) : Nat → Json → Reader Unit
  | 0, _ => failure
  | fuel + 1, value => do
    let _ ← values base context none fuel value
end

/-- States what the outermost value of a document says: a scalar says nothing, and an object that holds
a graph alone describes nothing itself. -/
def document (base : Option String) (fuel : Nat) : Json → Reader Unit
  | .object members => do
    let context ← match Json.find? members "@context" with
      | some added => StateT.lift ((Context.extend? base { base }) added)
      | none => pure { base }
    graph base context fuel (.object (members.filter (·.1 ≠ "@context")))
  | .array items => items.forM (graph base { base } fuel)
  | _ => return

end Reader

mutual
/-- The labels of blank nodes that a value writes, and other texts like them. -/
def labelsOf : Json → List String
  | .string text => ((node? text).bind fun node =>
      match node with
      | .blank label => some label
      | .iri _ => none).toList
  | .array items => labelsOfItems items
  | .object members => labelsOfMembers members
  | _ => []
/-- The labels that the items of a list write. -/
def labelsOfItems : List Json → List String
  | [] => []
  | item :: rest => labelsOf item ++ labelsOfItems rest
/-- The labels that the members of an object write. -/
def labelsOfMembers : List (String × Json) → List String
  | [] => []
  | (name, value) :: rest => labelsOf (.string name) ++ labelsOf value ++ labelsOfMembers rest
end

/-- The triples that a document states, and the number of the first label that was not made up;
none if the document is malformed. The labels that are made up start at the number `next`. A value is
read in a few steps for each bracket around it. -/
def readDocument? (base : Option String) (next : Nat) (text : String) :
    Option (List Triple × Nat) := do
  let value ← Json.read? text
  let start : Progress := ⟨labelsOf value, next, []⟩
  let (_, progress) ← (Reader.document base (4 * text.length + 8) value).run start
  return (progress.triples.reverse, progress.next)

end LinkedShapes.Rdf.JsonLd
