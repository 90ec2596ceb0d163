import LinkedShapes.Iri.Reference

/-!
# Faults of IRIs

What keeps a text from being an absolute IRI: the first fault from left to right, where a missing
scheme is found last.

## Main statements

* `charFault?_eq_none_iff`: a component without fault holds only what it may hold.
* `checked_eq_ok_iff`: a text without fault is given back as it is.
-/

namespace LinkedShapes.Iri

/-- What is wrong with a text as an IRI. -/
inductive Fault where
  /-- There is no scheme. -/
  | noScheme
  /-- A character can not stand next to the address of a host, or in it. -/
  | hostChar (c : Char)
  /-- The address of a host is not one of IP version 6. -/
  | hostAddress
  /-- A character stands in the number after a host. -/
  | numberChar (c : Char)
  /-- A character may not stand where it does. -/
  | codePoint (c : Char)
  /-- A percent sign, with what stands after it in the place of two digits. -/
  | percent (escape : String)
  deriving DecidableEq, Inhabited

/-- What is said of a fault. -/
def Fault.message : Fault → String
  | .noScheme => "No scheme found in an absolute IRI"
  | .hostChar c => "Invalid character '" ++ String.singleton c ++ "' in host"
  | .hostAddress => "Invalid host IP (invalid IPv6 address syntax)"
  | .numberChar c => "Invalid character '" ++ String.singleton c ++ "' in port"
  | .codePoint c => "Invalid IRI code point '" ++ String.singleton c ++ "'"
  | .percent escape => "Invalid IRI percent encoding '" ++ escape ++ "'"

/-- The first fault in a component that may hold the characters of a class and percent escapes; the
text after the component is `next`. -/
def charFault? (allowed : Char → Bool) (next : List Char) : List Char → Option Fault
  | [] => none
  | '%' :: a :: b :: rest =>
    if isHexDigit a && isHexDigit b then charFault? allowed next rest
    else some (.percent (String.ofList ['%', a, b]))
  | c :: rest =>
    if c = '%' then some (.percent (String.ofList ('%' :: (rest ++ next).take 2)))
    else if allowed c then charFault? allowed next rest
    else some (.codePoint c)

/-- A component without fault holds only what it may hold. -/
theorem charFault?_eq_none_iff {allowed : Char → Bool} {next text : List Char} :
    charFault? allowed next text = none ↔ consistsOf allowed text = true := by
  fun_induction charFault? allowed next text <;> simp_all [consistsOf]

/-- The first fault in an address of a later IP version. -/
def futureFault? (address : List Char) : Option Fault :=
  let rest := address.drop 1
  let version := rest.takeWhile (· ≠ '.')
  let interface := (rest.dropWhile (· ≠ '.')).drop 1
  match version.find? (!isHexDigit ·) with
  | some c => some (.hostChar c)
  | none =>
    if version = [] then some (.hostChar (interface.headD ']'))
    else if interface = [] then some (.hostChar ']')
    else (interface.find? fun c => !(isUnreserved c || isSubDelimiter c || c = ':')).map .hostChar

/-- The first fault in what stands between the brackets of a host. -/
def bracketFault? (address : List Char) : Option Fault :=
  match address with
  | 'v' :: _ | 'V' :: _ => futureFault? address
  | _ => if isIPv6 address then none else some .hostAddress

/-- The first fault in a host, perhaps with a number after a colon. -/
def hostFault? (next text : List Char) : Option Fault :=
  match text with
  | '[' :: rest =>
    if !(rest ++ next).contains ']' then some (.hostChar '[')
    else
      (bracketFault? ((rest ++ next).takeWhile (· ≠ ']'))) <|>
        match (rest.dropWhile (· ≠ ']')).drop 1 with
        | [] => none
        | c :: digits =>
          if c = ':' then (digits.find? (!Char.isDigit ·)).map .numberChar else some (.hostChar c)
  | _ =>
    let (name, rest) := splitBefore (· = ':') text
    charFault? isNameChar (rest ++ next) name <|>
      ((rest.drop 1).find? (!Char.isDigit ·)).map .numberChar

/-- The first fault in an authority. The characters of a user are looked at up to an at sign or the
bracket of a host, whether there is a user or not. -/
def authorityFault? (next text : List Char) : Option Fault :=
  let (user, rest) := splitBefore (fun c => c = '@' || c = '[') text
  charFault? (fun c => isNameChar c || c = ':') (rest ++ next) user <|>
    match rest with
    | '@' :: host => hostFault? next host
    | _ => hostFault? next text

namespace Reference

/-- The text of the query and the fragment. -/
def suffix (reference : Reference) : List Char :=
  (reference.query.elim [] ('?' :: ·)) ++ reference.fragment.elim [] ('#' :: ·)

/-- The first fault in the components, but for a missing scheme. -/
def componentFault? (reference : Reference) : Option Fault :=
  let fragment := reference.fragment.elim [] ('#' :: ·)
  reference.authority.bind (authorityFault? (reference.path ++ reference.suffix)) <|>
    charFault? isPathChar reference.suffix reference.path <|>
    reference.query.bind (charFault? isQueryChar fragment) <|>
    reference.fragment.bind (charFault? isFragmentChar [])

end Reference

/-- The first fault of a text as an absolute IRI. -/
def fault? (iri : String) : Option Fault :=
  let reference := Reference.split iri.toList
  if iri.toList.head? = some ':' then some .noScheme
  else
    reference.componentFault? <|>
      if reference.scheme.isNone then some .noScheme else none

/-- The text as an absolute IRI, or what keeps it from being one. -/
def checked (iri : String) : Except Fault String :=
  if isAbsolute iri then .ok iri else .error ((fault? iri).getD .noScheme)

/-- A text that is an absolute IRI is given back as it is, and no other one is. -/
theorem checked_eq_ok_iff {iri accepted : String} :
    checked iri = .ok accepted ↔ iri = accepted ∧ isAbsolute iri = true := by
  unfold checked
  split
  · rename_i h
    simp [h]
  · rename_i h
    simp [h]

end LinkedShapes.Iri
