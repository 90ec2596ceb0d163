import LinkedShapes.Json.Value
import LinkedShapes.Number.Scaled

/-!
# Reading JSON

A reader of the JSON grammar. The members of an object are kept in the order in which they are
written, repeated names included. A number without point and exponent that fits 64 bits is an
integer, except a negative zero; any other number is read with a 64-bit significand and scaled in
double precision. A number too great for that is refused, and so is a value nested more than 127
deep.
-/

namespace LinkedShapes.Json

open Number

/-- The greatest number of brackets that may be open at once. -/
def depthLimit : Nat := 127

/-- The blanks between tokens. -/
def isBlank (c : Char) : Bool :=
  c = ' ' || c = '\t' || c = '\n' || c = '\r'

/-- The text from its first character that is not a blank. -/
def skipBlanks (input : List Char) : List Char :=
  input.dropWhile isBlank

/-- The value of a hexadecimal digit. -/
def hexValue? (c : Char) : Option Nat :=
  if c.isDigit then some (c.toNat - 48)
  else if 'a' ≤ c ∧ c ≤ 'f' then some (c.toNat - 87)
  else if 'A' ≤ c ∧ c ≤ 'F' then some (c.toNat - 55)
  else none

/-- The number written by hexadecimal digits. -/
def hexNumber? (digits : List Char) : Option Nat :=
  digits.foldl (fun n c => n.bind fun n => (hexValue? c).map (16 * n + ·)) (some 0)

/-- The character of two halves of a surrogate pair. -/
def pairedChar (high low : Nat) : Char :=
  Char.ofNat (0x10000 + (high - 0xD800) * 0x400 + (low - 0xDC00))

/-- The text up to the closing quote, and the rest after it. -/
def readText (read : List Char) : List Char → Option (String × List Char)
  | [] => none
  | '"' :: rest => some (String.ofList read.reverse, rest)
  | '\\' :: '"' :: rest => readText ('"' :: read) rest
  | '\\' :: '\\' :: rest => readText ('\\' :: read) rest
  | '\\' :: '/' :: rest => readText ('/' :: read) rest
  | '\\' :: 'b' :: rest => readText ('\x08' :: read) rest
  | '\\' :: 'f' :: rest => readText ('\x0c' :: read) rest
  | '\\' :: 'n' :: rest => readText ('\n' :: read) rest
  | '\\' :: 'r' :: rest => readText ('\r' :: read) rest
  | '\\' :: 't' :: rest => readText ('\t' :: read) rest
  | '\\' :: 'u' :: a :: b :: c :: d :: rest =>
    match hexNumber? [a, b, c, d] with
    | none => none
    | some unit =>
      if 0xD800 ≤ unit ∧ unit < 0xDC00 then
        match rest with
        | '\\' :: 'u' :: e :: f :: g :: h :: rest =>
          match hexNumber? [e, f, g, h] with
          | none => none
          | some low =>
            if 0xDC00 ≤ low ∧ low < 0xE000 then readText (pairedChar unit low :: read) rest
            else none
        | _ => none
      else if 0xDC00 ≤ unit ∧ unit < 0xE000 then none
      else readText (Char.ofNat unit :: read) rest
  | c :: rest => if c = '\\' ∨ c.toNat < 32 then none else readText (c :: read) rest

/-- A fraction with its point, if there is one, as its digits; none if the digits are missing. -/
def readFraction (input : List Char) : Option (Option (List Char) × List Char) :=
  match input with
  | '.' :: rest =>
    let (digits, rest) := rest.span Char.isDigit
    if digits = [] then none else some (some digits, rest)
  | _ => some (none, input)

/-- An exponent with its letter, if there is one; none if the digits are missing. -/
def readExponent (input : List Char) : Option (Option Int × List Char) :=
  match input with
  | c :: rest =>
    if c = 'e' ∨ c = 'E' then
      let (negative, rest) := Binary64.splitSign rest
      let (digits, rest) := rest.span Char.isDigit
      if digits = [] then none
      else
        let n : Int := digitsValue digits
        some (some (if negative then -n else n), rest)
    else some (none, input)
  | [] => some (none, [])

/-- A number and the rest after it. -/
def readNumber (input : List Char) : Option (Json × List Char) := do
  let (negative, unsigned) := match input with
    | '-' :: rest => (true, rest)
    | _ => (false, input)
  let (whole, rest) := unsigned.span Char.isDigit
  if whole = [] ∨ (whole.head? = some '0' ∧ whole.length > 1) then none
  else
    let (fraction, rest) ← readFraction rest
    let (exponent, rest) ← readExponent rest
    let magnitude := digitsValue whole
    if fraction.isNone && exponent.isNone && !(negative && magnitude = 0) &&
        (if negative then minInt64 ≤ -(magnitude : Int) else magnitude ≤ maxNat64) then
      some (.int (if negative then -(magnitude : Int) else magnitude), rest)
    else
      let scaled := Scaled.ofDigits whole (fraction.getD []) (exponent.getD 0)
      (scaled.toBinary64? negative).map fun value => (.float value, rest)

mutual
/-- A value and the rest after it. -/
def readValue (depth : Nat) : Nat → List Char → Option (Json × List Char)
  | 0, _ => none
  | fuel + 1, input =>
    match skipBlanks input with
    | 'n' :: 'u' :: 'l' :: 'l' :: rest => some (.null, rest)
    | 't' :: 'r' :: 'u' :: 'e' :: rest => some (.bool true, rest)
    | 'f' :: 'a' :: 'l' :: 's' :: 'e' :: rest => some (.bool false, rest)
    | '"' :: rest => (readText [] rest).map fun (value, rest) => (.string value, rest)
    | '[' :: rest =>
      if depth = 0 then none
      else
        match skipBlanks rest with
        | ']' :: rest => some (.array [], rest)
        | _ => (readItems (depth - 1) fuel rest).map fun (items, rest) => (.array items, rest)
    | '\x7b' :: rest =>
      if depth = 0 then none
      else
        match skipBlanks rest with
        | '\x7d' :: rest => some (.object [], rest)
        | _ => (readMembers (depth - 1) fuel rest).map fun (members, rest) =>
          (.object members, rest)
    | rest => readNumber rest
/-- The items up to the closing bracket of a list, and the rest after it. -/
def readItems (depth : Nat) : Nat → List Char → Option (List Json × List Char)
  | 0, _ => none
  | fuel + 1, input =>
    match readValue depth fuel input with
    | none => none
    | some (item, rest) =>
      match skipBlanks rest with
      | ',' :: rest =>
        (readItems depth fuel rest).map fun (items, rest) => (item :: items, rest)
      | ']' :: rest => some ([item], rest)
      | _ => none
/-- The members up to the closing bracket of an object, and the rest after it. -/
def readMembers (depth : Nat) : Nat → List Char → Option (List (String × Json) × List Char)
  | 0, _ => none
  | fuel + 1, input =>
    match skipBlanks input with
    | '"' :: rest =>
      match readText [] rest with
      | none => none
      | some (name, rest) =>
        match skipBlanks rest with
        | ':' :: rest =>
          match readValue depth fuel rest with
          | none => none
          | some (value, rest) =>
            match skipBlanks rest with
            | ',' :: rest =>
              (readMembers depth fuel rest).map fun (members, rest) =>
                ((name, value) :: members, rest)
            | '\x7d' :: rest => some ([(name, value)], rest)
            | _ => none
        | _ => none
    | _ => none
end

/-- The value written by a text; none if the text is not one JSON value. Every step of the reader
uses up a character or follows one that did, so twice the length of the text bounds their number. -/
def read? (text : String) : Option Json :=
  let input := text.toList
  match readValue depthLimit (2 * input.length + 2) input with
  | some (value, rest) => if skipBlanks rest = [] then some value else none
  | none => none

end LinkedShapes.Json
