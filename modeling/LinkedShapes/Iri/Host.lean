import LinkedShapes.Iri.Character
import LinkedShapes.Text.Marker

/-!
# Hosts of IRIs

A host is a name or an address in square brackets. An address is one of IP version 6, or one of a
later version, which names its version.
-/

namespace LinkedShapes.Iri

/-- Whether a text is a number below 256 without leading zeros. -/
def isOctet (text : List Char) : Bool :=
  match text with
  | [] => false
  | [c] => c.isDigit
  | c :: rest =>
    c.isDigit && c ≠ '0' && rest.length ≤ 2 && rest.all Char.isDigit &&
      decide ((c :: rest).foldl (fun n d => 10 * n + (d.toNat - 48)) 0 < 256)

/-- Whether a text is an address of IP version 4. -/
def isIPv4 (text : List Char) : Bool :=
  let parts := text.splitOn '.'
  parts.length = 4 && parts.all isOctet

/-- Whether a text is one 16-bit group of an address of IP version 6. -/
def isGroup (text : List Char) : Bool :=
  text ≠ [] && text.length ≤ 4 && text.all isHexDigit

/-- The number of 16-bit groups that a part of an address stands for; the last group may be an
address of version 4, which counts twice, where `tail` allows it. -/
def groupCount (tail : Bool) (groups : List (List Char)) : Option Nat :=
  match groups with
  | [] => some 0
  | [last] =>
    if isGroup last then some 1 else if tail && isIPv4 last then some 2 else none
  | group :: rest => if isGroup group then (groupCount tail rest).map (· + 1) else none

/-- The number of groups of a part of an address, none for the empty text. -/
def partCount (tail : Bool) (text : List Char) : Option Nat :=
  if text = [] then some 0 else groupCount tail (text.splitOn ':')

/-- Whether a text is an address of IP version 6: eight groups, of which a double colon stands for
one or more zeros. -/
def isIPv6 (text : List Char) : Bool :=
  match Text.splitAtMarker [':', ':'] text with
  | some (head, tail) =>
    match partCount false head, partCount true tail with
    | some h, some t => h + t ≤ 7
    | _, _ => false
  | none => partCount true text = some 8

/-- Whether a text is an address of a later IP version. -/
def isIPvFuture (text : List Char) : Bool :=
  match text with
  | c :: rest =>
    let version := rest.takeWhile (· ≠ '.')
    let address := (rest.dropWhile (· ≠ '.')).drop 1
    (c = 'v' || c = 'V') && version ≠ [] && version.all isHexDigit && address ≠ [] &&
      address.all fun a => isUnreserved a || isSubDelimiter a || a = ':'
  | [] => false

/-- Whether a text is what stands between the brackets of a host. -/
def isBracketed (text : List Char) : Bool :=
  match text with
  | 'v' :: _ | 'V' :: _ => isIPvFuture text
  | _ => isIPv6 text

/-- Whether a text is a colon with digits after it, or nothing. -/
def isNumberSuffix (text : List Char) : Bool :=
  match text with
  | [] => true
  | c :: digits => c = ':' && digits.all Char.isDigit

/-- Whether a text is a host, perhaps with a number after a colon. -/
def isNumberedHost (text : List Char) : Bool :=
  match text with
  | '[' :: rest =>
    rest.contains ']' && isBracketed (rest.takeWhile (· ≠ ']')) &&
      isNumberSuffix ((rest.dropWhile (· ≠ ']')).drop 1)
  | _ =>
    consistsOf isNameChar (text.takeWhile (· ≠ ':')) && isNumberSuffix (text.dropWhile (· ≠ ':'))

/-- Whether a text is an authority: an optional user and a host, perhaps with a number. -/
def isAuthority (text : List Char) : Bool :=
  if text.contains '@' then
    consistsOf (fun c => isNameChar c || c = ':') (text.takeWhile (· ≠ '@')) &&
      isNumberedHost ((text.dropWhile (· ≠ '@')).drop 1)
  else isNumberedHost text

end LinkedShapes.Iri
