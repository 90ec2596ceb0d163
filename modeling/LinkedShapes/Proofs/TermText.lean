import LinkedShapes.Rdf.Text
import LinkedShapes.Rdf.Turtle.Token
import LinkedShapes.Shape.Scalar

/-!
# What the text of a term tells

Nodes are told apart by their texts, and the value of a literal can be read from its text: each
character of the value is written as itself or as an escape that is read as the character, so that the
first quote that is not escaped is the end of the value. A scalar that is read from a term is then
determined by the text of the term.

## Main statements

* `escapeChar_cases`: how a character is written, and that it is read back.
* `readShortText_escape`: a value is read up to the quote after it.
* `Node.text_injective`, `Literal.value_eq_of_text_eq`: nodes and values are known by their texts.
* `Scalar.read?_eq_of_text_eq`: terms of one text are read as the same value.
-/

namespace LinkedShapes.Rdf

open Turtle

/-! ### Values between quotes -/

/-- The two digits of a small number are read as the number. -/
theorem hexNumber?_upperHexDigit {n : Nat} (small : n < 128) :
    Json.hexNumber? ['0', '0', upperHexDigit (n / 16), upperHexDigit (n % 16)] = some n := by
  have table : ∀ n : Fin 128,
      Json.hexNumber? ['0', '0', upperHexDigit (n / 16), upperHexDigit (n % 16)] = some n.val := by
    decide
  exact table ⟨n, small⟩

/-- A character is written as it is, or as an escape that is read as the character. -/
theorem escapeChar_cases (c : Char) :
    (escapeChar c = [c] ∧ c ≠ '"' ∧ c ≠ '\\' ∧ c ≠ '\n' ∧ c ≠ '\r') ∨
      ∃ code, escapeChar c = '\\' :: code ∧
        ∀ rest, readTextEscape (code ++ rest) = some (c, rest) := by
  unfold escapeChar
  split
  · exact .inr ⟨['b'], rfl, fun rest => by simp_all [readTextEscape]⟩
  split
  · exact .inr ⟨['t'], rfl, fun rest => by simp_all [readTextEscape]⟩
  split
  · exact .inr ⟨['n'], rfl, fun rest => by simp_all [readTextEscape]⟩
  split
  · exact .inr ⟨['f'], rfl, fun rest => by simp_all [readTextEscape]⟩
  split
  · exact .inr ⟨['r'], rfl, fun rest => by simp_all [readTextEscape]⟩
  split
  · exact .inr ⟨['"'], rfl, fun rest => by simp_all [readTextEscape]⟩
  split
  · exact .inr ⟨['\\'], rfl, fun rest => by simp_all [readTextEscape]⟩
  split
  · rename_i control
    refine .inr ⟨_, rfl, fun rest => ?_⟩
    have small : c.toNat < 128 := by omega
    have valid : c.toNat.isValidChar := c.valid
    simp only [List.cons_append, List.nil_append, readTextEscape, readEscape, readCodePoint]
    simp [hexNumber?_upperHexDigit small, valid]
  · exact .inl (by simp_all)

/-- The value of a literal is read up to the quote after it, whatever follows. -/
theorem readShortText_escape {value read rest : List Char} {fuel : Nat}
    (enough : value.length < fuel) :
    readShortText '"' fuel read (value.flatMap escapeChar ++ '"' :: rest) =
      some (.text (String.ofList (read.reverse ++ value)) true, rest) := by
  induction value generalizing fuel read with
  | nil =>
    obtain ⟨fuel, rfl⟩ := Nat.exists_eq_add_of_lt enough
    simp [readShortText]
  | cons c value ih =>
    obtain ⟨fuel, rfl⟩ : ∃ n, fuel = n + 1 := ⟨fuel - 1, by simp at enough; omega⟩
    have enough : value.length < fuel := by simpa using enough
    rw [List.flatMap_cons, List.append_assoc]
    rcases escapeChar_cases c with ⟨plain, quote, backslash, newline, carriage⟩ |
      ⟨code, coded, decoded⟩
    · simp [plain, readShortText, quote, backslash, newline, carriage, ih enough]
    · rw [coded]
      simp [readShortText, decoded, ih enough]

/-- Where the texts of two values and what follows them are the same, so are the values and what
follows. -/
theorem escape_append_inj {value other : String} {rest tail : List Char}
    (same : (escape value).toList ++ '"' :: rest = (escape other).toList ++ '"' :: tail) :
    value = other ∧ rest = tail := by
  rw [escape, escape, String.toList_ofList, String.toList_ofList] at same
  let fuel := value.toList.length + other.toList.length + 1
  have readBack {text : String} (after : List Char) (enough : text.toList.length < fuel) :
      readShortText '"' fuel [] (text.toList.flatMap escapeChar ++ '"' :: after) =
        some (.text (String.ofList text.toList) true, after) :=
    readShortText_escape enough
  have first := readBack rest (show value.toList.length < fuel by omega)
  have second := readBack tail (show other.toList.length < fuel by omega)
  rw [same, second] at first
  simp only [String.ofList_toList, Option.some.injEq, Prod.mk.injEq, Token.text.injEq,
    and_true] at first
  exact ⟨first.1.symm, first.2.symm⟩

/-! ### Terms -/

/-- Different nodes have different texts. -/
theorem Node.text_injective {node other : Node} (same : node.text = other.text) : node = other := by
  have same := congrArg String.toList same
  cases node <;> cases other <;> simp [Node.text, iriText, String.toList_inj] at same <;> rw [same]

/-- What stands after the quotes of a literal: its language, or its datatype if it is no simple one. -/
def Literal.annotation (literal : Literal) : String :=
  match literal.language with
  | some language => "@" ++ language
  | none => if literal.datatype = Xsd.string then "" else "^^" ++ iriText literal.datatype

theorem Literal.toList_text (literal : Literal) :
    literal.text.toList =
      '"' :: ((escape literal.value).toList ++ '"' :: literal.annotation.toList) := by
  unfold Literal.text Literal.annotation
  cases literal.language with
  | some language => simp
  | none =>
    dsimp only
    split <;> simp

/-- Literals of one text have the same value. -/
theorem Literal.value_eq_of_text_eq {literal other : Literal} (same : literal.text = other.text) :
    literal.value = other.value := by
  have written := literal.toList_text
  rw [same, other.toList_text] at written
  exact (escape_append_inj (List.cons.inj written).2).1.symm

theorem Node.text_ne_literal (node : Node) (literal : Literal) : node.text ≠ literal.text := by
  intro same
  have written := literal.toList_text
  rw [← same] at written
  cases node <;> simp [Node.text, iriText] at written

end LinkedShapes.Rdf

namespace LinkedShapes

open Rdf

/-- Terms of one text are read as the same value. -/
theorem Scalar.read?_eq_of_text_eq {scalar : Scalar} {term other : Term}
    (same : term.text = other.text) : scalar.read? term = scalar.read? other := by
  cases term with
  | node node =>
    cases other with
    | node other => rw [Node.text_injective same]
    | literal literal => exact absurd same (node.text_ne_literal literal)
  | literal literal =>
    cases other with
    | node node => exact absurd same.symm (node.text_ne_literal literal)
    | literal other => simp only [read?, readLiteral?, Literal.value_eq_of_text_eq same]

end LinkedShapes
