import LinkedShapes.Http.Message
import LinkedShapes.Iri.Resolution

/-!
# Redirections

A response may send a request on to another place. Where the resource itself was asked for, or its
headers, the request is repeated there; another request becomes one that asks for the resource, and only
if the status says that the answer is to be found there.

## Main statements

* `follow_broken`: without a connection there is no answer.
-/

namespace LinkedShapes.Http

/-- The method of the request that follows a response with a location, if one does. -/
def methodAfter (method : Method) (status : Nat) : Option Method :=
  if status = 301 || status = 302 || status = 303 then
    some (if method = .head then .head else .get)
  else if (status = 307 || status = 308) && method.isSafe then some method
  else none

/-- The request that a response sends on: nothing if the response is the answer, and a failure if the
location is not one. -/
def redirected (request : Request) (response : Response) : Option (Option Request) :=
  match response.headers.first? "location", methodAfter request.method response.status with
  | some location, some method =>
    some do
      let place ← if isHeaderText location then Iri.resolve? request.uri.text location else none
      let uri ← Uri.read? place
      return { request with method := method, uri := uri, body := "" }
  | _, _ => none

/-- The answer to a request after at most a number of redirections; none if the connection fails or
there are more of them. Only servers with a host are reached, and not through an encrypted
connection. -/
def follow {σ : Type} (wire : Wire σ) : Nat → Request → σ → Option Response × σ
  | limit, request, state =>
    if request.uri.scheme.map (fun s => s.toList.map Char.toLower) ≠ some "http".toList then
      (none, state)
    else
      match wire request state with
      | (none, state) => (none, state)
      | (some response, state) =>
        match redirected request response, limit with
        | none, _ => (some response, state)
        | some none, _ => (none, state)
        | some (some _), 0 => (none, state)
        | some (some request), limit + 1 => follow wire limit request state

theorem follow_broken {σ : Type} (limit : Nat) (request : Request) (state : σ) :
    follow Wire.broken limit request state = (none, state) := by
  unfold follow
  split <;> rfl

end LinkedShapes.Http
