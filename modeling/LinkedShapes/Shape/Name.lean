import LinkedShapes.Iri.Host
import LinkedShapes.Text.Case

/-!
# Names of shapes and properties

Types and fields are named after the last part of an IRI, made into a name of the query language:
letters, digits and underscores, without a digit at the start.

## Main statements

* `isNameChar_of_mem_sanitize`: a sanitised name holds only name characters.
* `sanitize_ne_nil`: a sanitised name is not empty.
-/

namespace LinkedShapes.Shape

/-- Whether a character may stand in a name. -/
def isNameChar (c : Char) : Bool := c.isAlphanum || c = '_'

/-- The character, or an underscore if it may not stand in a name. -/
def nameChar (c : Char) : Char := if isNameChar c then c else '_'

theorem isNameChar_nameChar (c : Char) : isNameChar (nameChar c) = true := by
  unfold nameChar
  split
  · assumption
  · rfl

/-- Whether a text can not start a name: it is empty or has a digit at its start. -/
def lacksStart (text : List Char) : Bool :=
  text.head?.all Char.isDigit

/-- The text with an underscore for each character that may not stand in a name, and one more in
front where there would be no name or a digit at the start. -/
def sanitize (text : List Char) : List Char :=
  if lacksStart (text.map nameChar) then '_' :: text.map nameChar else text.map nameChar

/-- A text as a name. -/
def sanitizedName (text : String) : String :=
  String.ofList (sanitize text.toList)

theorem isNameChar_of_mem_sanitize {text : List Char} {c : Char} (h : c ∈ sanitize text) :
    isNameChar c = true := by
  have replaced : ∀ d ∈ text.map nameChar, isNameChar d = true := by
    intro d hd
    obtain ⟨e, -, rfl⟩ := List.mem_map.1 hd
    exact isNameChar_nameChar e
  unfold sanitize at h
  split at h
  · rcases List.mem_cons.1 h with rfl | h
    · rfl
    · exact replaced c h
  · exact replaced c h

theorem sanitize_ne_nil (text : List Char) : sanitize text ≠ [] := by
  unfold sanitize
  split
  · simp
  · rename_i h
    intro hnil
    simp [hnil, lacksStart] at h

/-- The part of a text after its last hash, if it has one. -/
def fragment? (text : List Char) : Option (List Char) :=
  if '#' ∈ text then some (text.reverse.takeWhile (· ≠ '#')).reverse else none

/-- The fragment of an IRI, or the last part of its path if it has none. -/
def localName (iri : List Char) : List Char :=
  match fragment? iri with
  | some (c :: rest) => c :: rest
  | _ =>
    let trimmed := iri.reverse.dropWhile fun c => c = '/' || c = '#'
    (trimmed.takeWhile fun c => c ≠ '/' && c ≠ ':').reverse

/-- The text without a suffix, unless the suffix is all of it. -/
def dropProperSuffix (suffix text : List Char) : List Char :=
  let stem := text.take (text.length - suffix.length)
  if stem ≠ [] ∧ text = stem ++ suffix then stem else text

/-- The name of the type described by the shape of an IRI: its local name, without the word
`Shape` at the end, capitalised. -/
def shapeName (iri : String) : String :=
  let stem := dropProperSuffix "Shape".toList (localName iri.toList)
  Text.capitalize (String.ofList (sanitize stem))

end LinkedShapes.Shape
