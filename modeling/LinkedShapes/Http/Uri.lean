import LinkedShapes.Iri.Reference

/-!
# Request URIs

The URIs that requests can be sent to, or at least be made for: a scheme with an authority, an authority
alone, a path alone, or an asterisk. Fragments are dropped.
-/

namespace LinkedShapes.Http

/-- Where a request is sent to. -/
structure Uri where
  /-- The scheme, if there is one. -/
  scheme : Option String := none
  /-- The host and what goes with it, perhaps empty. -/
  authority : String := ""
  /-- The path and the query, perhaps empty. -/
  target : String := ""
  deriving DecidableEq, Inhabited

namespace Uri

/-- The greatest length of a URI in bytes. -/
def lengthLimit : Nat := 65534

/-- The greatest length of a scheme. -/
def schemeLimit : Nat := 64

/-- Whether a character may stand in an authority. -/
def isAuthorityChar (c : Char) : Bool :=
  c.isAlphanum || "!$&'()*+,-.:;=@[]_~%".toList.contains c

/-- Whether a character ends an authority. -/
def endsAuthority (c : Char) : Bool := c = '/' || c = '?' || c = '#'

/-- What is known of an authority after some of its characters. -/
structure Host where
  /-- The number of colons since the user information and the bracketed address. -/
  colons : Nat := 0
  /-- Whether a bracket was opened. -/
  opened : Bool := false
  /-- Whether a bracket was closed. -/
  closed : Bool := false
  /-- Whether there was a percent sign since the user information and the bracketed address. -/
  percent : Bool := false

/-- The greatest number of colons in a bracketed address. -/
def colonLimit : Nat := 8

/-- What is known after one more character; none if it can not follow. -/
def Host.step (host : Host) (c : Char) : Option Host :=
  if !isAuthorityChar c then none
  else if c = ':' then
    if host.colons < colonLimit then some { host with colons := host.colons + 1 } else none
  else if c = '[' then
    if host.percent || host.opened then none else some { host with opened := true }
  else if c = ']' then
    if host.opened && !host.closed then
      some { host with closed := true, colons := 0, percent := false }
    else none
  else if c = '@' then some { host with colons := 0, percent := false }
  else if c = '%' then some { host with percent := true }
  else some host

/-- Whether a text is an authority: brackets go together, the host has at most one number, and user
information is followed by a host, which holds no percent sign. -/
def isAuthority (text : List Char) : Bool :=
  match text.foldlM Host.step {} with
  | none => false
  | some host =>
    host.opened = host.closed && host.colons ≤ 1 && !host.percent && text.getLast? ≠ some '@'

/-- Whether a character is neither a blank nor a control character of ASCII. -/
def isVisible (c : Char) : Bool := '!' ≤ c && c ≠ '\x7f'

/-- Whether a character may stand in a path. Characters beyond ASCII may. -/
def isPathChar (c : Char) : Bool :=
  isVisible c && c ≠ '#' && c ≠ '<' && c ≠ '>' && c ≠ '?' && c.toNat ≠ 96

/-- Whether a character may stand in a query. Characters beyond ASCII may. -/
def isQueryChar (c : Char) : Bool := isVisible c && c ≠ '"' && c ≠ '#' && c ≠ '<' && c ≠ '>'

/-- The path and the query of a text that goes on to its end or to a fragment; none if a character may
not stand there. -/
def target? (text : List Char) : Option (List Char) :=
  let shown := text.takeWhile (· ≠ '#')
  let path := shown.takeWhile (· ≠ '?')
  let query := (shown.dropWhile (· ≠ '?')).drop 1
  if path.all isPathChar && query.all isQueryChar then some shown else none

/-- Whether a character may stand in a scheme. -/
def isSchemeChar (c : Char) : Bool := c.isAlphanum || c = '+' || c = '-' || c = '.' || c = '~'

/-- The scheme at the start of a text and the rest after its two slashes, if there is a scheme; none
if the scheme is too long. -/
def splitScheme (text : List Char) : Option (Option (List Char) × List Char) :=
  match text.dropWhile isSchemeChar with
  | ':' :: '/' :: '/' :: rest =>
    let scheme := text.takeWhile isSchemeChar
    if scheme.length ≤ schemeLimit then some (some scheme, rest) else none
  | _ => some (none, text)

/-- The URI that a text writes. -/
def read? (text : String) : Option Uri :=
  let chars := text.toList
  if lengthLimit < text.utf8ByteSize then none
  else
    match chars with
    | [] => none
    | ['*'] => some { target := "*" }
    | '/' :: _ => (target? chars).map fun target => { target := String.ofList target }
    | _ => do
      let (scheme, rest) ← splitScheme chars
      let authority := rest.takeWhile (!endsAuthority ·)
      let rest := rest.dropWhile (!endsAuthority ·)
      if authority.isEmpty || !isAuthority authority then none
      else
        match scheme with
        | none =>
          if rest.isEmpty then some { authority := String.ofList authority } else none
        | some scheme =>
          let target ← target? rest
          some ⟨some (String.ofList scheme), String.ofList authority, String.ofList target⟩

/-- The URI as it is written. A target that does not start with a slash gets one. -/
def text (uri : Uri) : String :=
  let target := if uri.target.toList.head? = some '/' then uri.target else "/" ++ uri.target
  match uri.scheme with
  | some scheme => scheme ++ "://" ++ uri.authority ++ target
  | none => uri.authority ++ uri.target

end Uri

end LinkedShapes.Http
