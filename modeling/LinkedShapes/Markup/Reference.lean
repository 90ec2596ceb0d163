import LinkedShapes.Json.Reader
import LinkedShapes.Markup.Piece

/-!
# References of markup

A reference stands for a text: a character, known by its number, or an entity, known by its name. Five
entities are always there, for the characters that markup uses; a document may declare more.

## Main statements

* `expand?_escape`: a text is read back from the text that has references in the places of the
  characters that markup uses.
-/

namespace LinkedShapes.Markup

open Text (splitAtMarker splitAtMarker_singleton)

/-- The entities that every document has. -/
def basicEntities : List (String × String) :=
  [("lt", "<"), ("gt", ">"), ("amp", "&"), ("apos", "'"), ("quot", "\"")]

/-- The character of a number, which is not zero. -/
def characterOf? (number : List Char) : Option Char :=
  let code := match number with
    | 'x' :: digits => if digits.isEmpty then none else Json.hexNumber? digits
    | digits => Number.readDigits? digits
  (code.filter fun n => n ≠ 0 && n.isValidChar).map Char.ofNat

/-- What a reference stands for. -/
def reference? (entities : List (String × String)) (name : List Char) : Option (List Char) :=
  match name with
  | '#' :: number => (characterOf? number).map ([·])
  | name => ((basicEntities ++ entities).lookup (String.ofList name)).map String.toList

/-- A text after an ampersand, with the reference that it starts with expanded. -/
def expandReference? (entities : List (String × String)) (text : List Char) : Option (List Char) :=
  (splitAtMarker [';'] text).bind fun (name, rest) =>
    (reference? entities name).map (· ++ rest)

/-- What a text with references stands for; none if one of them stands for nothing. -/
def expandChars? (entities : List (String × String)) (written : List Char) : Option (List Char) :=
  match written.splitOn '&' with
  | [] => some []
  | plain :: parts =>
    (parts.mapM (expandReference? entities)).map fun parts => plain ++ parts.flatten

@[inherit_doc expandChars?]
def expand? (entities : List (String × String)) (written : String) : Option String :=
  (expandChars? entities written.toList).map String.ofList

/-- The name of the entity of a character that markup uses. -/
def entityName? (c : Char) : Option (List Char) :=
  match c with
  | '<' => some "lt".toList
  | '>' => some "gt".toList
  | '&' => some "amp".toList
  | '\'' => some "apos".toList
  | '"' => some "quot".toList
  | _ => none

/-- A character, or a reference to it if markup uses it. -/
def escapeChar (c : Char) : List Char :=
  match entityName? c with
  | some name => '&' :: (name ++ [';'])
  | none => [c]

/-- A text with references in the places of the characters that markup uses. -/
def escape (text : String) : String := String.ofList (text.toList.flatMap escapeChar)

/-! ### Reading escaped texts back -/

/-- A text without the separator is the start of the first part. -/
theorem splitOn_append {separator : Char} {start : List Char} (h : separator ∉ start)
    (rest : List Char) :
    (start ++ rest).splitOn separator = (rest.splitOn separator).modifyHead (start ++ ·) := by
  induction start with
  | nil => exact (congrFun List.modifyHead_id _).symm
  | cons c start ih =>
    rw [List.mem_cons, not_or] at h
    simp [List.splitOn_cons_eq_if_modifyHead, Ne.symm h.1, ih h.2, Function.comp_def]

theorem expandChars?_cons {c : Char} (h : c ≠ '&') (entities : List (String × String))
    (rest : List Char) :
    expandChars? entities (c :: rest) = (expandChars? entities rest).map (c :: ·) := by
  obtain ⟨part, parts, hs⟩ := List.exists_cons_of_ne_nil (List.splitOn_ne_nil '&' rest)
  simp [expandChars?, List.splitOn_cons_eq_if_modifyHead, h, hs, Option.map_map, Function.comp_def]

theorem expandChars?_reference {entities : List (String × String)} {name value : List Char}
    (hamp : '&' ∉ name) (hend : ';' ∉ name) (hname : reference? entities name = some value)
    (rest : List Char) :
    expandChars? entities ('&' :: (name ++ ';' :: rest)) =
      (expandChars? entities rest).map (value ++ ·) := by
  obtain ⟨part, parts, hs⟩ := List.exists_cons_of_ne_nil (List.splitOn_ne_nil '&' rest)
  have hsplit : (name ++ ';' :: rest).splitOn '&' = (name ++ ';' :: part) :: parts := by
    rw [splitOn_append hamp]
    simp [List.splitOn_cons_eq_if_modifyHead, hs]
  have hpart : expandReference? entities (name ++ ';' :: part) = some (value ++ part) := by
    simp [expandReference?, splitAtMarker_singleton hend, hname]
  cases hm : parts.mapM (expandReference? entities) <;>
    simp [expandChars?, List.splitOn_cons_eq_if_modifyHead, hsplit, hs, hpart, hm]

theorem expandChars?_escapeChar (entities : List (String × String)) (c : Char)
    (rest : List Char) :
    expandChars? entities (escapeChar c ++ rest) = (expandChars? entities rest).map (c :: ·) := by
  unfold escapeChar
  split
  · rename_i name h
    have hc : '&' ∉ name ∧ ';' ∉ name ∧ reference? entities name = some [c] := by
      unfold entityName? at h
      split at h <;> cases h <;>
        refine ⟨by decide, by decide, ?_⟩ <;>
        simp [reference?, basicEntities, List.lookup_cons]
    simpa using expandChars?_reference hc.1 hc.2.1 hc.2.2 rest
  · rename_i h
    have hc : c ≠ '&' := by
      rintro rfl
      simp [entityName?] at h
    exact expandChars?_cons hc entities rest

/-- A text is read back from its escaped form. -/
theorem expand?_escape (entities : List (String × String)) (text : String) :
    expand? entities (escape text) = some text := by
  have key (chars : List Char) : expandChars? entities (chars.flatMap escapeChar) = some chars := by
    induction chars with
    | nil => simp [expandChars?]
    | cons c rest ih => simp [expandChars?_escapeChar, ih]
  simp [expand?, escape, key]

/-! ### Entities -/

/-- The entity of a declaration, which follows its opening bracket and keyword. -/
def entity? (entities : List (String × String)) (declaration : List Char) :
    Option (String × String) := do
  let declaration := match skipBlanks declaration with
    | '%' :: rest => skipBlanks rest
    | rest => rest
  let name := declaration.takeWhile (!isBlank ·)
  match skipBlanks (declaration.dropWhile (!isBlank ·)) with
  | '"' :: rest =>
    let (value, rest) ← splitAtMarker ['"'] rest
    if (skipBlanks rest).head? = some '>' then
      return (String.ofList name, ← expand? entities (String.ofList value))
    else none
  | _ => none

/-- The entities that the declaration of a type declares, the latest first, before those that there
were. -/
def declaredEntities? (entities : List (String × String)) (doctype : String) :
    Option (List (String × String)) :=
  ((doctype.toList.splitOn '<').drop 1).foldlM (fun entities part =>
    if "!ENTITY".toList.isPrefixOf part then
      (entity? entities (part.drop 7)).map (· :: entities)
    else some entities) entities

end LinkedShapes.Markup
