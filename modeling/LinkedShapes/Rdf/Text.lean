import LinkedShapes.Rdf.Term

/-!
# N-Triples text of terms

Terms are written as in N-Triples. Inside a literal the quote, the backslash and the control
characters are escaped, everything else is written as it is: a literal can therefore not hold an
unescaped quote, and the end of its value can be told from the value.
-/

namespace LinkedShapes.Rdf

/-- The digit of a number below sixteen, letters in upper case. -/
def upperHexDigit (n : Nat) : Char :=
  if n < 10 then Char.ofNat (48 + n) else Char.ofNat (55 + n)

/-- The text that stands for a character inside the quotes of a literal: a short escape where
there is one, a code point escape for the other control characters, else the character. -/
def escapeChar (c : Char) : List Char :=
  if c = '\x08' then ['\\', 'b']
  else if c = '\t' then ['\\', 't']
  else if c = '\n' then ['\\', 'n']
  else if c = '\x0c' then ['\\', 'f']
  else if c = '\r' then ['\\', 'r']
  else if c = '"' then ['\\', '"']
  else if c = '\\' then ['\\', '\\']
  else if c.toNat < 32 ∨ c.toNat = 127 then
    ['\\', 'u', '0', '0', upperHexDigit (c.toNat / 16), upperHexDigit (c.toNat % 16)]
  else [c]

/-- The value of a literal as it is written between quotes. -/
def escape (value : String) : String :=
  String.ofList (value.toList.flatMap escapeChar)

/-- The N-Triples text of an IRI. -/
def iriText (iri : String) : String := "<" ++ iri ++ ">"

/-- The N-Triples text of a node. -/
def Node.text : Node → String
  | .iri text => iriText text
  | .blank id => "_:" ++ id

/-- The N-Triples text of a literal; the datatype of a simple literal is not written. -/
def Literal.text (literal : Literal) : String :=
  let quoted := "\"" ++ escape literal.value ++ "\""
  match literal.language with
  | some language => quoted ++ "@" ++ language
  | none =>
    if literal.datatype = Xsd.string then quoted
    else quoted ++ "^^" ++ iriText literal.datatype

/-- The N-Triples text of a term. -/
def Term.text : Term → String
  | .node n => n.text
  | .literal l => l.text

/-- The N-Triples text of a triple, without the final dot. -/
def Triple.text (triple : Triple) : String :=
  triple.subject.text ++ " " ++ iriText triple.predicate ++ " " ++ triple.object.text

/-- The triple as a line of an N-Triples document. -/
def Triple.line (triple : Triple) : String :=
  triple.text ++ " .\n"

end LinkedShapes.Rdf
