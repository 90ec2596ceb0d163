import LinkedShapes.Text.Marker

/-!
# Pieces of markup

An XML document as a sequence of tags and texts. Comments and processing instructions are dropped. A tag
that closes itself is an opening tag and a closing tag. Texts and the values of attributes are kept as
they are written, with their references.
-/

namespace LinkedShapes.Markup

open Text (splitAtMarker)

/-- A piece of a document. -/
inductive Piece where
  /-- A tag that opens an element, with the attributes as they are written. -/
  | opening (name : String) (attributes : List (String × String))
  /-- A tag that closes an element. -/
  | closing (name : String)
  /-- A text with references. -/
  | text (written : String)
  /-- A text without references. -/
  | verbatim (value : String)
  /-- The attributes of the declaration of a document. -/
  | declaration (attributes : List (String × String))
  /-- The declaration of the type of a document. -/
  | doctype (content : String)
  deriving DecidableEq, Inhabited

/-- The blanks of markup. -/
def isBlank (c : Char) : Bool := c = ' ' || c = '\t' || c = '\n' || c = '\r'

/-- A text from its first character that is not a blank. -/
def skipBlanks (input : List Char) : List Char := input.dropWhile isBlank

/-! ### Ends of pieces -/

/-- The text of a tag and the rest after its closing bracket; brackets between quotes do not close it.
`quote` is the quote that is open. -/
def splitTag (quote : Option Char) : List Char → Option (List Char × List Char)
  | [] => none
  | c :: rest =>
    let goOn (quote : Option Char) := (splitTag quote rest).map fun (tag, rest) => (c :: tag, rest)
    match quote with
    | some q => goOn (if c = q then none else some q)
    | none =>
      if c = '>' then some ([], rest)
      else goOn (if c = '"' || c = '\'' then some c else none)

/-- The text of a declaration of a type and the rest after its closing bracket; `depth` counts the
brackets that are open. -/
def splitDoctype (depth : Nat) : List Char → Option (List Char × List Char)
  | [] => none
  | c :: rest =>
    let goOn (depth : Nat) :=
      (splitDoctype depth rest).map fun (content, rest) => (c :: content, rest)
    if c = '<' then goOn (depth + 1)
    else if c = '>' then
      match depth with
      | 0 => some ([], rest)
      | depth + 1 => goOn depth
    else goOn depth

/-! ### Tags -/

/-- The attributes written in a text: names, equals signs and values between quotes. -/
def readAttributes : Nat → List Char → Option (List (String × String))
  | 0, _ => none
  | fuel + 1, input =>
    match skipBlanks input with
    | [] => some []
    | input =>
      let inName := fun c => c ≠ '=' && !isBlank c
      let name := input.takeWhile inName
      match skipBlanks (input.dropWhile inName) with
      | '=' :: rest =>
        match skipBlanks rest with
        | quote :: rest =>
          if name.isEmpty || (quote ≠ '"' && quote ≠ '\'') then none
          else
            (splitAtMarker [quote] rest).bind fun (value, rest) =>
              (readAttributes fuel rest).map ((String.ofList name, String.ofList value) :: ·)
        | [] => none
      | _ => none

/-- The attributes written in a text; none if they are malformed or a name stands twice. -/
def attributes? (text : List Char) : Option (List (String × String)) :=
  (readAttributes (text.length + 1) text).filter fun attributes =>
    (attributes.map Prod.fst).Nodup

/-- The pieces of a tag that opens an element; `tag` stands between its brackets. -/
def openingPieces? (tag : List Char) : Option (List Piece) :=
  let closes := tag.getLast? = some '/'
  let tag := if closes then tag.dropLast else tag
  let name := String.ofList (tag.takeWhile (!isBlank ·))
  if name = "" then none
  else
    (attributes? (tag.dropWhile (!isBlank ·))).map fun attributes =>
      .opening name attributes :: (if closes then [.closing name] else [])

/-- The piece of a processing instruction, if it is the declaration of the document. -/
def instructionPieces? (content : List Char) : Option (List Piece) :=
  if content.takeWhile (!isBlank ·) = "xml".toList then
    (attributes? (content.drop 3)).map fun attributes => [.declaration attributes]
  else some []

/-! ### Documents -/

/-- The pieces at the start of a text that starts with an angle bracket, and the rest; `input` follows
the bracket. -/
def readMarkup (input : List Char) : Option (List Piece × List Char) :=
  match input with
  | '!' :: '-' :: '-' :: rest => (splitAtMarker "-->".toList rest).map fun (_, rest) => ([], rest)
  | '!' :: '[' :: 'C' :: 'D' :: 'A' :: 'T' :: 'A' :: '[' :: rest =>
    (splitAtMarker "]]>".toList rest).map fun (value, rest) =>
      ([.verbatim (String.ofList value)], rest)
  | '!' :: rest =>
    if (rest.take 7).map Char.toUpper = "DOCTYPE".toList then
      (splitDoctype 0 (rest.drop 7)).map fun (content, rest) =>
        ([.doctype (String.ofList content)], rest)
    else none
  | '?' :: rest =>
    (splitAtMarker "?>".toList rest).bind fun (content, rest) =>
      (instructionPieces? content).map (·, rest)
  | '/' :: rest =>
    (splitTag none rest).map fun (tag, rest) =>
      ([.closing (String.ofList (tag.reverse.dropWhile isBlank).reverse)], rest)
  | _ => (splitTag none input).bind fun (tag, rest) => (openingPieces? tag).map (·, rest)

/-- The pieces of a text. -/
def readPieces : Nat → List Char → Option (List Piece)
  | 0, _ => none
  | _ + 1, [] => some []
  | fuel + 1, '<' :: input =>
    (readMarkup input).bind fun (pieces, rest) => (readPieces fuel rest).map (pieces ++ ·)
  | fuel + 1, input =>
    let text := String.ofList (input.takeWhile (· ≠ '<'))
    (readPieces fuel (input.dropWhile (· ≠ '<'))).map (.text text :: ·)

/-- The pieces of a document, which may start with a byte order mark; none if a piece is malformed. -/
def pieces? (document : String) : Option (List Piece) :=
  let input := match document.toList with
    | '\uFEFF' :: rest => rest
    | input => input
  readPieces (input.length + 1) input

end LinkedShapes.Markup
