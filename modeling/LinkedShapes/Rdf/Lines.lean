import LinkedShapes.Rdf.Turtle.Document

/-!
# N-Triples and N-Quads

Formats with one statement a line: three terms, in N-Quads perhaps the name of a graph, and a dot.
IRIs are absolute, texts stand between double quotes, and nothing is abbreviated. The names of graphs
are dropped.
-/

namespace LinkedShapes.Rdf.Lines

open Turtle (Token)

/-- The lines of a text. -/
def linesOf (text : List Char) : List (List Char) :=
  (text.splitOn '\n').flatMap (List.splitOn '\r')

/-- The node that a token stands for. -/
def node? : Token → Option Node
  | .iri text => if Iri.isAbsolute text then some (.iri text) else none
  | .blank label => some (.blank label)
  | _ => none

/-- The object at the start of some tokens, and the rest. -/
def object? : List Token → Option (Term × List Token)
  | .text value true :: .tag language :: rest =>
    some (.literal (.tagged value (String.ofList (language.toList.map Char.toLower))), rest)
  | .text value true :: .datatypeMark :: .iri datatype :: rest =>
    if Iri.isAbsolute datatype then some (.literal (.typed value datatype), rest) else none
  | .text _ _ :: .datatypeMark :: _ => none
  | .text value true :: rest => some (.literal (.simple value), rest)
  | token :: rest => (node? token).map fun n => (.node n, rest)
  | [] => none

/-- The triple of a line, if the line has one; `graphs` says whether a graph may be named. -/
def line? (graphs : Bool) : List Token → Option (Option Triple)
  | [] => some none
  | subject :: .iri predicate :: rest => do
    let subject ← node? subject
    let (object, rest) ← object? rest
    if !Iri.isAbsolute predicate then none
    else
      let triple : Triple := ⟨subject, predicate, object⟩
      match rest with
      | [.mark '.'] => some (some triple)
      | [name, .mark '.'] => if graphs && (node? name).isSome then some (some triple) else none
      | _ => none
  | _ => none

/-- The triples that a document states; none if it is malformed. -/
def readDocument? (graphs : Bool) (text : String) : Option (List Triple) := do
  let lines ← (linesOf text.toList).mapM fun line => do
    line? graphs (← Turtle.tokens? (String.ofList line))
  return lines.filterMap id

end LinkedShapes.Rdf.Lines
