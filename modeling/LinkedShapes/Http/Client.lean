import LinkedShapes.Http.Redirection
import LinkedShapes.Ldp.Resource
import LinkedShapes.Rdf.Format
import LinkedShapes.Text.Blank

/-!
# Access to resources over HTTP

The client of resources that sends requests to their servers. The kind of a resource is told by the
links in its headers or by a slash at the end of its URL; its triples are read in the format that the
server names.
-/

namespace LinkedShapes.Http

open Rdf Ldp

/-- The formats that are asked for. -/
def acceptedFormats : String := "text/turtle, application/n-triples;q=0.9"

/-- The media type of Turtle. -/
def turtleMediaType : String := "text/turtle"

/-- The name that requests are made under. -/
def userAgent : String := "shapeql/0.1.0"

/-- The parts of a text between the occurrences of a character. -/
def partsOf (separator : Char) (text : String) : List String :=
  (text.toList.splitOn separator).map String.ofList

/-- Whether a text holds another one. -/
def holds (part : List Char) : List Char → Bool
  | [] => part.isEmpty
  | c :: rest => part.isPrefixOf (c :: rest) || holds part rest

/-- Whether one of the links of a response types the resource as a container. -/
def typesContainer (response : Response) : Bool :=
  let links := ((response.headers.all "link").filter isHeaderText).flatMap (partsOf ',')
  links.any fun link =>
    let has (part : String) : Bool := holds part.toList link.toList
    has "rel=\"type\"" && (has (iriText Ldp.container) || has (iriText Ldp.basicContainer))

/-- The kind of the resource that a response is about. -/
def kindOf (response : Response) (url : String) : ResourceKind :=
  if typesContainer response || url.toList.getLast? = some '/' then .container else .document

/-- The format of the body of a response; Turtle if none is named, and none if the one that is named is
not known. -/
def formatOf? (response : Response) : Option Format :=
  match response.headers.first? "content-type" with
  | none => some .turtle
  | some value =>
    if isHeaderText value then
      let mediaType := value.toList.takeWhile (· ≠ ';')
      Format.ofMediaType? (String.ofList (Text.trim mediaType))
    else none

/-- The triples of the resource that a response holds. -/
def graphOf (response : Response) (url : String) : Except Failure Graph :=
  match formatOf? response with
  | none => .error (.malformed url)
  | some format =>
    if !Iri.isAbsolute url then .error (.invalidUrl url)
    else
      match format.read? (some url) 0 response.body with
      | none => .error (.malformed url)
      | some (triples, _) => .ok (Graph.ofList triples)

/-- The response of success to a request, or why there is none. -/
def send {σ : Type} (wire : Wire σ) (limit : Nat) (method : Method) (url : String)
    (headers : Headers) (body : String) (state : σ) : Except Failure Response × σ :=
  match Uri.read? url with
  | none => (.error (.invalidUrl url), state)
  | some uri =>
    match follow wire limit ⟨method, uri, headers ++ [("user-agent", userAgent)], body⟩ state with
    | (none, state) => (.error .connection, state)
    | (some response, state) =>
      if response.isSuccess then (.ok response, state)
      else (.error (.status url response.status response.body), state)

/-- The method, the headers and the body of the request for a change. -/
def requestOf : Write → Method × Headers × String
  | .patch patch => (.patch, [("content-type", Patch.mediaType)], patch.text)
  | .put graph => (.put, [("content-type", turtleMediaType)], graph.text)
  | .delete => (.delete, [], "")

/-- The client that sends requests over a connection, with a limit to redirections. -/
def client {σ : Type} (wire : Wire σ) (limit : Nat) : Client σ where
  kind url state :=
    match send wire limit .head url [] "" state with
    | (.error failure, state) => (.error failure, state)
    | (.ok response, state) => (.ok (kindOf response url), state)
  download url state :=
    match send wire limit .get url [("accept", acceptedFormats)] "" state with
    | (.error failure, state) => (.error failure, state)
    | (.ok response, state) => (graphOf response url, state)
  write url change state :=
    let (method, headers, body) := requestOf change
    match send wire limit method url headers body state with
    | (.error failure, state) => (.error failure, state)
    | (.ok _, state) => (.ok (), state)

end LinkedShapes.Http
