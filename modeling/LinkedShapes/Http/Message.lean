import LinkedShapes.Http.Uri

/-!
# Requests and responses

What is sent to a server and what it answers. The names of headers are told apart without regard to
the case of letters.
-/

namespace LinkedShapes.Http

/-- A method of requests. -/
inductive Method where
  /-- Asks for the headers. -/
  | head
  /-- Asks for the resource. -/
  | get
  /-- Creates or replaces the resource. -/
  | put
  /-- Changes the resource. -/
  | patch
  /-- Removes the resource. -/
  | delete
  deriving DecidableEq, Inhabited

/-- The name of a method. -/
def Method.text : Method → String
  | .head => "HEAD"
  | .get => "GET"
  | .put => "PUT"
  | .patch => "PATCH"
  | .delete => "DELETE"

/-- Whether a method only asks. -/
def Method.isSafe : Method → Bool
  | .head | .get => true
  | _ => false

/-- Headers, in order. -/
abbrev Headers := List (String × String)

/-- Whether two names of headers are the same. -/
def sameHeader (a b : String) : Bool :=
  a.toList.map Char.toLower = b.toList.map Char.toLower

/-- The values of the headers of a name. -/
def Headers.all (headers : Headers) (name : String) : List String :=
  (headers.filter fun header => sameHeader header.1 name).map Prod.snd

/-- The value of the first header of a name. -/
def Headers.first? (headers : Headers) (name : String) : Option String :=
  (headers.all name).head?

/-- Whether the value of a header is text: visible characters of ASCII, blanks and tabs. -/
def isHeaderText (value : String) : Bool :=
  value.toList.all fun c => (' ' ≤ c && c ≤ '~') || c = '\t'

/-- A request. -/
structure Request where
  /-- The method. -/
  method : Method
  /-- Where the request is sent to. -/
  uri : Uri
  /-- The headers. -/
  headers : Headers := []
  /-- The body, perhaps empty. -/
  body : String := ""
  deriving DecidableEq, Inhabited

/-- A response. -/
structure Response where
  /-- The status. -/
  status : Nat
  /-- The headers. -/
  headers : Headers := []
  /-- The body, perhaps empty. -/
  body : String := ""
  deriving DecidableEq, Inhabited

/-- Whether a response is one of success. -/
def Response.isSuccess (response : Response) : Bool :=
  200 ≤ response.status && response.status < 300

/-- The connection to servers: what is answered to a request, if the connection does not fail, and the
state after it. -/
def Wire (σ : Type) := Request → σ → Option Response × σ

/-- The connection that always fails. -/
def Wire.broken {σ : Type} : Wire σ := fun _ state => (none, state)

end LinkedShapes.Http
