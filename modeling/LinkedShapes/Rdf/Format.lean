import LinkedShapes.Rdf.JsonLd.Document
import LinkedShapes.Rdf.Lines
import LinkedShapes.Rdf.Notation3
import LinkedShapes.Rdf.Xml.Document

/-!
# Formats of documents

The formats that triples are read from, how they are told from media types and from names of files, and
reading a document in each of them. The names of graphs are dropped.
-/

namespace LinkedShapes.Rdf

/-- A format of documents. -/
inductive Format where
  /-- Turtle. -/
  | turtle
  /-- Turtle with named graphs. -/
  | trig
  /-- Notation 3. -/
  | n3
  /-- One triple a line. -/
  | nTriples
  /-- One triple a line, perhaps with the name of a graph. -/
  | nQuads
  /-- RDF/XML. -/
  | rdfXml
  /-- JSON-LD. -/
  | jsonLd
  deriving DecidableEq, Inhabited

namespace Format

/-- The format with an extension of file names, in letters of either case. -/
def ofExtension? (extension : String) : Option Format :=
  match String.ofList (extension.toList.map Char.toLower) with
  | "ttl" => some turtle
  | "trig" => some trig
  | "n3" => some n3
  | "nt" | "txt" => some nTriples
  | "nq" => some nQuads
  | "rdf" | "xml" => some rdfXml
  | "json" | "jsonld" => some jsonLd
  | _ => none

/-- The format of a media type, in letters of either case: one of texts or of applications. -/
def ofMediaType? (mediaType : String) : Option Format :=
  match (mediaType.toList.map Char.toLower).splitOn '/' with
  | [kind, subtype] =>
    if String.ofList kind ∈ ["application", "text"] then
      let subtype := if "x-".toList.isPrefixOf subtype then subtype.drop 2 else subtype
      match String.ofList subtype with
      | "turtle" => some turtle
      | "trig" => some trig
      | "n3" => some n3
      | "n-triples" | "ntriples" | "plain" => some nTriples
      | "n-quads" | "nquads" => some nQuads
      | "rdf+xml" | "xml" | "rdf" => some rdfXml
      | "ld+json" | "json" | "jsonld" | "activity+json" => some jsonLd
      | _ => none
    else none
  | _ => none

/-- The triples that a document states, and the number of the first label of blank nodes that was not
made up; none if the document is malformed. IRIs are resolved against the base where the format knows
relative ones, and the labels that are made up start at the number `next`. -/
def read? (format : Format) (base : Option String) (next : Nat) (text : String) :
    Option (List Triple × Nat) :=
  match format with
  | turtle => Turtle.readDocument? false base next text
  | trig => Turtle.readDocument? true base next text
  | nTriples => (Lines.readDocument? false text).map (·, next)
  | nQuads => (Lines.readDocument? true text).map (·, next)
  | rdfXml => Xml.readDocument? base next text
  | n3 => Notation3.readDocument? base next text
  | jsonLd => JsonLd.readDocument? base next text

end Format

end LinkedShapes.Rdf
