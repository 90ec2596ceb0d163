/-!
# White space

The characters of the Unicode property `White_Space`, and the removal of those around a text.
-/

namespace LinkedShapes.Text

/-- Whether a character has the property `White_Space`. -/
def isWhiteSpace (c : Char) : Bool :=
  let n := c.toNat
  (9 ≤ n && n ≤ 13) || n = 32 || n = 133 || n = 160 || n = 5760 || (8192 ≤ n && n ≤ 8202) ||
    n = 8232 || n = 8233 || n = 8239 || n = 8287 || n = 12288

/-- The text without the white space at its start and at its end. -/
def trim (text : List Char) : List Char :=
  ((text.dropWhile isWhiteSpace).reverse.dropWhile isWhiteSpace).reverse

/-- A text without white space is left as it is. -/
theorem trim_eq_self {text : List Char} (dense : ∀ c ∈ text, isWhiteSpace c = false) :
    trim text = text := by
  have kept (chars : List Char) (same : ∀ c ∈ chars, isWhiteSpace c = false) :
      chars.dropWhile isWhiteSpace = chars := by
    cases chars with
    | nil => rfl
    | cons c rest => simp [same c List.mem_cons_self]
  have reversed : ∀ c ∈ text.reverse, isWhiteSpace c = false := by simpa using dense
  rw [trim, kept text dense, kept text.reverse reversed, List.reverse_reverse]

theorem isWhiteSpace_eq_false_of_isDigit {c : Char} (digit : c.isDigit = true) :
    isWhiteSpace c = false := by
  have range : 48 ≤ c.toNat ∧ c.toNat ≤ 57 := by
    simpa [Char.isDigit, UInt32.le_iff_toNat_le] using digit
  simp only [isWhiteSpace, Bool.or_eq_false_iff, Bool.and_eq_false_iff, decide_eq_false_iff_not]
  omega

end LinkedShapes.Text
