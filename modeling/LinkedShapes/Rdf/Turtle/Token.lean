import LinkedShapes.Iri.Reference
import LinkedShapes.Json.Reader
import LinkedShapes.Rdf.Term
import LinkedShapes.Text.LanguageTag

/-!
# Tokens of Turtle

The words that Turtle and the formats around it are made of. Blanks and comments separate tokens and
are dropped. The dots at the end of a name or a number are not part of it.

## Main statements

* `splitTag_append`: a word and what is left after it are the whole text.
-/

namespace LinkedShapes.Rdf.Turtle

/-- A word of a document. -/
inductive Token where
  /-- An IRI reference between angle brackets. -/
  | iri (text : String)
  /-- A name with a namespace before the colon. -/
  | prefixed (space name : String)
  /-- A label of a blank node. -/
  | blank (label : String)
  /-- A text between quotes; `plain` if these are single pairs of double quotes. -/
  | text (value : String) (plain : Bool)
  /-- A number and its datatype. -/
  | number (value datatype : String)
  /-- A word after an at sign. -/
  | tag (word : String)
  /-- A name after a question mark. -/
  | variable (name : String)
  /-- A mark of one character. -/
  | mark (c : Char)
  /-- An arrow of two characters. -/
  | arrow (text : String)
  /-- The mark before a datatype. -/
  | datatypeMark
  /-- A word that stands alone. -/
  | word (word : String)
  deriving DecidableEq, Inhabited

/-! ### Characters of names -/

/-- The ranges of code points that names may start with, beside the letters of ASCII. -/
def nameStartRanges : List (Nat × Nat) :=
  [(0xC0, 0xD6), (0xD8, 0xF6), (0xF8, 0x2FF), (0x370, 0x37D), (0x37F, 0x1FFF), (0x200C, 0x200D),
   (0x2070, 0x218F), (0x2C00, 0x2FEF), (0x3001, 0xD7FF), (0xF900, 0xFDCF), (0xFDF0, 0xFFFD),
   (0x10000, 0xEFFFF)]

/-- Whether a namespace name may start with a character. -/
def isNameStart (c : Char) : Bool := c.isAlpha || Iri.inRanges nameStartRanges c

/-- Whether a label or a local name may start with a character. -/
def isLabelStart (c : Char) : Bool := isNameStart c || c = '_' || c.isDigit

/-- Whether a name may go on with a character. -/
def isNameChar (c : Char) : Bool :=
  isLabelStart c || c = '-' || Iri.inRanges [(0xB7, 0xB7), (0x300, 0x36F), (0x203F, 0x2040)] c

/-- The characters that a backslash may stand before in a local name. -/
def escapableChars : List Char := "_~.-!$&'()*+,;=/?#@%".toList

/-! ### Escapes -/

/-- The character of a code point written by the next digits, and the rest. -/
def readCodePoint (digits : Nat) (input : List Char) : Option (Char × List Char) :=
  if input.length < digits then none
  else
    match Json.hexNumber? (input.take digits) with
    | some n => if n.isValidChar then some (Char.ofNat n, input.drop digits) else none
    | none => none

/-- The character that an escape stands for, and the rest; `input` follows the backslash. -/
def readEscape (input : List Char) : Option (Char × List Char) :=
  match input with
  | 'u' :: rest => readCodePoint 4 rest
  | 'U' :: rest => readCodePoint 8 rest
  | _ => none

/-- The same, with the short escapes of texts. -/
def readTextEscape (input : List Char) : Option (Char × List Char) :=
  match input with
  | 't' :: rest => some ('\t', rest)
  | 'b' :: rest => some ('\x08', rest)
  | 'n' :: rest => some ('\n', rest)
  | 'r' :: rest => some ('\r', rest)
  | 'f' :: rest => some ('\x0c', rest)
  | '"' :: rest => some ('"', rest)
  | '\'' :: rest => some ('\'', rest)
  | '\\' :: rest => some ('\\', rest)
  | _ => readEscape input

/-! ### Readers of single tokens

Each reader gets the text after the characters that its token was told by; `read` collects the
characters of the token, the last one first. -/

/-- Reads an IRI up to its closing bracket. -/
def readIri (fuel : Nat) (read : List Char) (input : List Char) : Option (Token × List Char) :=
  match fuel, input with
  | 0, _ => none
  | _, [] => none
  | _ + 1, '>' :: rest => some (.iri (String.ofList read.reverse), rest)
  | fuel + 1, '\\' :: rest => (readEscape rest).bind fun (c, rest) => readIri fuel (c :: read) rest
  | fuel + 1, c :: rest =>
    if c = '\n' || c = '\r' then none else readIri fuel (c :: read) rest

/-- Reads a text of one line up to its closing quote. -/
def readShortText (quote : Char) (fuel : Nat) (read : List Char) (input : List Char) :
    Option (Token × List Char) :=
  match fuel, input with
  | 0, _ => none
  | _, [] => none
  | fuel + 1, c :: rest =>
    if c = quote then some (.text (String.ofList read.reverse) (quote = '"'), rest)
    else if c = '\\' then
      (readTextEscape rest).bind fun (c, rest) => readShortText quote fuel (c :: read) rest
    else if c = '\n' || c = '\r' then none
    else readShortText quote fuel (c :: read) rest

/-- Reads a text of many lines up to its three closing quotes. -/
def readLongText (quote : Char) (fuel : Nat) (read : List Char) (input : List Char) :
    Option (Token × List Char) :=
  match fuel, input with
  | 0, _ => none
  | _, [] => none
  | fuel + 1, c :: rest =>
    if [quote, quote, quote].isPrefixOf (c :: rest) then
      some (.text (String.ofList read.reverse) false, rest.drop 2)
    else if c = '\\' then
      (readTextEscape rest).bind fun (c, rest) => readLongText quote fuel (c :: read) rest
    else readLongText quote fuel (c :: read) rest

/-- Reads a text after its first quote. -/
def readText (quote : Char) (input : List Char) : Option (Token × List Char) :=
  match input with
  | a :: b :: rest =>
    if a = quote && b = quote then readLongText quote (rest.length + 1) [] rest
    else readShortText quote (input.length + 1) [] input
  | _ => readShortText quote (input.length + 1) [] input

/-- A name without the dots at its end, and these dots before the rest. -/
def withoutFinalDots (name rest : List Char) : List Char × List Char :=
  let dots := name.reverse.takeWhile (· = '.')
  (name.take (name.length - dots.length), dots ++ rest)

/-- Reads the label of a blank node. -/
def readBlank (input : List Char) : Option (Token × List Char) :=
  match input with
  | c :: rest =>
    if isLabelStart c then
      let inLabel := fun c => isNameChar c || c = '.'
      let (label, rest) := withoutFinalDots (c :: rest.takeWhile inLabel) (rest.dropWhile inLabel)
      some (.blank (String.ofList label), rest)
    else none
  | [] => none

/-- Reads a local name; `dots` is the number of dots at the end of what was read. -/
def readLocal (fuel : Nat) (read : List Char) (dots : Nat) (input : List Char) :
    Option (List Char × List Char) :=
  let finish := some ((read.drop dots).reverse, List.replicate dots '.' ++ input)
  match fuel, input with
  | 0, _ => none
  | _, [] => finish
  | fuel + 1, '%' :: rest =>
    match rest with
    | a :: b :: rest =>
      if Iri.isHexDigit a && Iri.isHexDigit b then readLocal fuel (b :: a :: '%' :: read) 0 rest
      else none
    | _ => none
  | fuel + 1, '\\' :: rest =>
    match rest with
    | c :: rest => if c ∈ escapableChars then readLocal fuel (c :: read) 0 rest else none
    | [] => none
  | fuel + 1, c :: rest =>
    if isLabelStart c || c = ':' || (isNameChar c && !read.isEmpty) then
      readLocal fuel (c :: read) 0 rest
    else if c = '.' && !read.isEmpty then readLocal fuel (c :: read) (dots + 1) rest
    else finish

/-- Reads a word or a prefixed name. -/
def readName (input : List Char) : Option (Token × List Char) :=
  let inName := fun c => isNameChar c || c = '.'
  let name := input.takeWhile inName
  match input.dropWhile inName with
  | ':' :: rest =>
    if name.getLast? = some '.' || name.head?.any (!isNameStart ·) then none
    else
      (readLocal (rest.length + 1) [] 0 rest).map fun (localName, rest) =>
        (.prefixed (String.ofList name) (String.ofList localName), rest)
  | rest =>
    if name.head?.any isNameStart then
      let (name, rest) := withoutFinalDots name rest
      some (.word (String.ofList name), rest)
    else none

/-- The letters at the start of a text with the blocks of letters after single hyphens, and the
rest. -/
def splitTag : List Char → List Char × List Char
  | [] => ([], [])
  | c :: rest =>
    if c.isAlpha || (c = '-' && rest.head?.any Char.isAlpha) then
      let (tag, left) := splitTag rest
      (c :: tag, left)
    else ([], c :: rest)

theorem splitTag_append (input : List Char) : (splitTag input).1 ++ (splitTag input).2 = input := by
  fun_induction splitTag input <;> simp_all

/-- Reads the word after an at sign: a language tag of letters. -/
def readTag (input : List Char) : Option (Token × List Char) :=
  let (tag, rest) := splitTag input
  if tag.head?.any Char.isAlpha && Text.isLanguageTag tag then some (.tag (String.ofList tag), rest)
  else none

/-- Reads the name after a question mark. -/
def readVariable (input : List Char) : Option (Token × List Char) :=
  (readLocal (input.length + 1) [] 0 input).bind fun (name, rest) =>
    if name = [] then none else some (.variable (String.ofList name), rest)

/-- Reads what follows an opening angle bracket: an IRI, or the rest of an arrow, which is told from
an IRI by what an IRI may not hold. -/
def readAngle (input : List Char) : Option (Token × List Char) :=
  let iri? := readIri (input.length + 1) [] input
  match input with
  | c :: rest =>
    if c = '=' || c = '-' then
      match iri? with
      | some (.iri text, left) =>
        if (Iri.Reference.split text.toList).isValid then some (.iri text, left)
        else some (.arrow (String.ofList ['<', c]), rest)
      | _ => some (.arrow (String.ofList ['<', c]), rest)
    else iri?
  | [] => none

/-- The exponent at the start of a text, and the rest. -/
def splitExponent (input : List Char) : Option (List Char × List Char) :=
  match input with
  | e :: rest =>
    if e = 'e' || e = 'E' then
      let (sign, rest) := match rest with
        | '+' :: rest => (['+'], rest)
        | '-' :: rest => (['-'], rest)
        | _ => ([], rest)
      let (digits, rest) := rest.span Char.isDigit
      some (e :: sign ++ digits, rest)
    else none
  | [] => none

/-- Reads a number: an integer, a decimal with digits after its point, or a double with an
exponent. -/
def readNumber (input : List Char) : Option (Token × List Char) :=
  let (sign, rest) := match input with
    | '+' :: rest => (['+'], rest)
    | '-' :: rest => (['-'], rest)
    | _ => ([], input)
  let (whole, afterWhole) := rest.span Char.isDigit
  let (fraction, afterFraction) := match afterWhole with
    | '.' :: rest => (rest.span Char.isDigit)
    | _ => ([], afterWhole)
  let point := if afterWhole.head? = some '.' then ['.'] else []
  let number (text : List Char) (datatype : String) (rest : List Char) :=
    some (Token.number (String.ofList text) datatype, rest)
  match splitExponent afterFraction with
  | some (exponent, rest) =>
    if exponent.getLast?.any Char.isDigit && !(whole ++ fraction).isEmpty then
      number (sign ++ whole ++ point ++ fraction ++ exponent) Xsd.double rest
    else none
  | none =>
    if !fraction.isEmpty then
      number (sign ++ whole ++ point ++ fraction) Xsd.decimal afterFraction
    else if !whole.isEmpty then number (sign ++ whole) Xsd.integer afterWhole
    else none

/-- Reads the token at the start of a text that does not start with a blank. -/
def readToken (input : List Char) : Option (Token × List Char) :=
  match input with
  | '<' :: rest => readAngle rest
  | '=' :: '>' :: rest => some (.arrow "=>", rest)
  | '?' :: rest => readVariable rest
  | '"' :: rest => readText '"' rest
  | '\'' :: rest => readText '\'' rest
  | '@' :: rest => readTag rest
  | '^' :: '^' :: rest => some (.datatypeMark, rest)
  | '_' :: ':' :: rest => readBlank rest
  | c :: rest =>
    if c.isDigit || c = '+' || c = '-' || (c = '.' && rest.head?.any Char.isDigit) then
      readNumber input
    else if c ∈ ['.', ',', ';', '[', ']', '(', ')', '\x7b', '\x7d', '=', '!', '^'] then
      some (.mark c, rest)
    else readName input
  | [] => none

/-- The blanks between tokens. -/
def isBlank (c : Char) : Bool := c = ' ' || c = '\t' || c = '\n' || c = '\r'

/-- Reads all tokens. -/
def readTokens : Nat → List Char → Option (List Token)
  | 0, _ => none
  | fuel + 1, input =>
    match input with
    | [] => some []
    | c :: rest =>
      if isBlank c then readTokens fuel rest
      else if c = '#' then readTokens fuel (rest.dropWhile fun c => c ≠ '\n' && c ≠ '\r')
      else
        match readToken input with
        | some (token, rest) => (readTokens fuel rest).map (token :: ·)
        | none => none

/-- The tokens of a text; none if a part of the text is not a token. Each step uses up a
character. -/
def tokens? (text : String) : Option (List Token) :=
  readTokens (text.toList.length + 1) text.toList

end LinkedShapes.Rdf.Turtle
