/-!
# Characters of IRIs

The character classes of RFC 3987. Beyond the ASCII characters of a URI, the letters of all scripts
are allowed everywhere, and private use characters in the query.

## Main statements

* `not_mem_of_consistsOf`: a component does not hold the characters that are not allowed in it.
-/

namespace LinkedShapes.Iri

/-- The ranges of code points that an IRI adds to the unreserved characters of a URI. -/
def letterRanges : List (Nat × Nat) :=
  [(0xA0, 0xD7FF), (0xF900, 0xFDCF), (0xFDF0, 0xFFEF), (0x10000, 0x1FFFD), (0x20000, 0x2FFFD),
   (0x30000, 0x3FFFD), (0x40000, 0x4FFFD), (0x50000, 0x5FFFD), (0x60000, 0x6FFFD),
   (0x70000, 0x7FFFD), (0x80000, 0x8FFFD), (0x90000, 0x9FFFD), (0xA0000, 0xAFFFD),
   (0xB0000, 0xBFFFD), (0xC0000, 0xCFFFD), (0xD0000, 0xDFFFD), (0xE1000, 0xEFFFD)]

/-- The ranges of the private use characters. -/
def privateRanges : List (Nat × Nat) :=
  [(0xE000, 0xF8FF), (0xF0000, 0xFFFFD), (0x100000, 0x10FFFD)]

/-- Whether a code point lies in one of the ranges. -/
def inRanges (ranges : List (Nat × Nat)) (c : Char) : Bool :=
  ranges.any fun (low, high) => low ≤ c.toNat && c.toNat ≤ high

/-- The unreserved characters of a URI. -/
def isUnreserved (c : Char) : Bool :=
  c.isAlphanum || "-._~".toList.contains c

/-- The characters that delimit parts inside a component. -/
def isSubDelimiter (c : Char) : Bool :=
  "!$&'()*+,;=".toList.contains c

/-- The characters that a host name may hold besides percent escapes. -/
def isNameChar (c : Char) : Bool :=
  isUnreserved c || isSubDelimiter c || inRanges letterRanges c

/-- The characters that a path segment may hold besides percent escapes. -/
def isSegmentChar (c : Char) : Bool :=
  isNameChar c || c = ':' || c = '@'

/-- The characters that a path may hold besides percent escapes. -/
def isPathChar (c : Char) : Bool :=
  isSegmentChar c || c = '/'

/-- The characters that a fragment may hold besides percent escapes. -/
def isFragmentChar (c : Char) : Bool :=
  isPathChar c || c = '?'

/-- The characters that a query may hold besides percent escapes. -/
def isQueryChar (c : Char) : Bool :=
  isFragmentChar c || inRanges privateRanges c

/-- The hexadecimal digits in either case. -/
def isHexDigit (c : Char) : Bool :=
  c.isDigit || ('a' ≤ c && c ≤ 'f') || ('A' ≤ c && c ≤ 'F')

/-- Whether a text holds only characters of a class and well-formed percent escapes. -/
def consistsOf (allowed : Char → Bool) : List Char → Bool
  | [] => true
  | '%' :: a :: b :: rest => isHexDigit a && isHexDigit b && consistsOf allowed rest
  | c :: rest => c ≠ '%' && allowed c && consistsOf allowed rest

/-- A text does not hold a character that is neither allowed nor part of an escape. -/
theorem not_mem_of_consistsOf {allowed : Char → Bool} {c : Char} (refused : allowed c = false)
    (noDigit : isHexDigit c = false) (noPercent : c ≠ '%') {text : List Char}
    (h : consistsOf allowed text = true) : c ∉ text := by
  fun_induction consistsOf allowed text with
  | case1 => exact List.not_mem_nil
  | case2 a b rest ih =>
    simp only [Bool.and_eq_true] at h
    have ha : c ≠ a := by rintro rfl; simp [noDigit] at h
    have hb : c ≠ b := by rintro rfl; simp [noDigit] at h
    simp [noPercent, ha, hb, ih h.2]
  | case3 d rest _ ih =>
    simp only [Bool.and_eq_true] at h
    have hd : c ≠ d := by rintro rfl; simp [refused] at h
    simp [hd, ih h.2]

end LinkedShapes.Iri
