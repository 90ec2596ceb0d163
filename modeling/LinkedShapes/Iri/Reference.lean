import LinkedShapes.Iri.Host

/-!
# IRI references

A reference is cut into its five components at the delimiters of RFC 3986: a scheme before a colon,
an authority after two slashes, a path, a query after a question mark and a fragment after a hash.
An absolute IRI is a reference that has a scheme and whose components are well formed.

## Main statements

* `Reference.text_split`: writing the components of a text gives the text back.
* `count_hash_le_one`: an absolute IRI has one hash at most.
-/

namespace LinkedShapes.Iri

/-- The components of a reference. -/
structure Reference where
  /-- The scheme, without its colon. -/
  scheme : Option (List Char)
  /-- The authority, without the slashes before it. -/
  authority : Option (List Char)
  /-- The path. -/
  path : List Char
  /-- The query, without its question mark. -/
  query : Option (List Char)
  /-- The fragment, without its hash. -/
  fragment : Option (List Char)
  deriving DecidableEq

/-- Whether a character may stand in a scheme after its first one. -/
def isSchemeChar (c : Char) : Bool :=
  c.isAlphanum || c = '+' || c = '-' || c = '.'

/-- Whether a text is a scheme. -/
def isScheme (text : List Char) : Bool :=
  match text with
  | [] => false
  | c :: rest => c.isAlpha && rest.all isSchemeChar

/-- The text before the first character of a kind, and the rest from that character on. -/
def splitBefore (stop : Char → Bool) (text : List Char) : List Char × List Char :=
  (text.takeWhile (!stop ·), text.dropWhile (!stop ·))

namespace Reference

/-- Cuts a text at the first occurrence of a delimiter, which is dropped. A fragment is cut off at the
first hash, and a query at the first question mark before it. -/
def cutAt (delimiter : Char) (text : List Char) : List Char × Option (List Char) :=
  match splitBefore (· = delimiter) text with
  | (before, _ :: after) => (before, some after)
  | (before, []) => (before, none)

/-- Cuts an authority off a text without scheme, query and fragment. -/
def splitAuthority (text : List Char) : Option (List Char) × List Char :=
  match text with
  | '/' :: '/' :: rest =>
    let (authority, path) := splitBefore (· = '/') rest
    (some authority, path)
  | _ => (none, text)

/-- Cuts a scheme off. -/
def splitScheme (text : List Char) : Option (List Char) × List Char :=
  match splitBefore (· = ':') text with
  | (before, _ :: rest) => if isScheme before then (some before, rest) else (none, text)
  | (_, []) => (none, text)

/-- Cuts a text into its components. -/
def split (text : List Char) : Reference :=
  let (scheme, rest) := splitScheme text
  let (rest, fragment) := cutAt '#' rest
  let (rest, query) := cutAt '?' rest
  let (authority, path) := splitAuthority rest
  ⟨scheme, authority, path, query, fragment⟩

/-- The text of a reference. -/
def text (reference : Reference) : List Char :=
  (match reference.scheme with
    | some scheme => scheme ++ [':']
    | none => []) ++
  ((match reference.authority with
    | some authority => '/' :: '/' :: authority
    | none => []) ++
  (reference.path ++
  ((match reference.query with
    | some query => '?' :: query
    | none => []) ++
  (match reference.fragment with
    | some fragment => '#' :: fragment
    | none => []))))

/-- Whether the components hold only the characters allowed in them. -/
def isValid (reference : Reference) : Bool :=
  reference.scheme.all isScheme && reference.authority.all isAuthority &&
    consistsOf isPathChar reference.path && reference.query.all (consistsOf isQueryChar) &&
    reference.fragment.all (consistsOf isFragmentChar)

/-- Whether the first segment of the path holds a colon, where a scheme would be read. -/
def hasColonInFirstSegment (reference : Reference) : Bool :=
  reference.scheme.isNone && reference.authority.isNone &&
    (reference.path.takeWhile (· ≠ '/')).contains ':'

theorem splitBefore_append (stop : Char → Bool) (text : List Char) :
    (splitBefore stop text).1 ++ (splitBefore stop text).2 = text := by
  simp [splitBefore, List.takeWhile_append_dropWhile]

theorem splitBefore_cons {stop : Char → Bool} {text before rest : List Char} {c : Char}
    (h : splitBefore stop text = (before, c :: rest)) : stop c = true := by
  have h2 : text.dropWhile (!stop ·) = c :: rest := congrArg Prod.snd h
  have := List.head_dropWhile_not (!stop ·) (l := text) (by simp [h2])
  simpa [h2] using this

/-- What was cut off can be put back. -/
theorem cutAt_append (delimiter : Char) (text : List Char) :
    (cutAt delimiter text).1 ++ (match (cutAt delimiter text).2 with
      | some after => delimiter :: after
      | none => []) = text := by
  have happ := splitBefore_append (· = delimiter) text
  rcases h : splitBefore (· = delimiter) text with ⟨before, _ | ⟨c, rest⟩⟩
  · simpa [cutAt, h] using happ
  · have hc : c = delimiter := by simpa using splitBefore_cons h
    simpa [cutAt, h, hc] using happ

theorem fst_cutAt (delimiter : Char) (text : List Char) :
    (cutAt delimiter text).1 = text.takeWhile (· ≠ delimiter) := by
  unfold cutAt
  split <;> simp_all [splitBefore]

/-- What stands before the delimiter does not hold it. -/
theorem not_mem_cutAt (delimiter : Char) (text : List Char) : delimiter ∉ (cutAt delimiter text).1 := by
  rw [fst_cutAt]
  intro there
  simpa using List.all_eq_true.1 List.all_takeWhile delimiter there

/-- An authority that was cut off can be put back. -/
theorem splitAuthority_append (text : List Char) :
    (match (splitAuthority text).1 with
      | some authority => '/' :: '/' :: authority
      | none => []) ++ (splitAuthority text).2 = text := by
  by_cases h : ∃ rest, text = '/' :: '/' :: rest
  · obtain ⟨rest, rfl⟩ := h
    exact congrArg (fun r => '/' :: '/' :: r) (splitBefore_append (· = '/') rest)
  · have none_cut : splitAuthority text = (none, text) := by
      unfold splitAuthority
      split
      · exact absurd ⟨_, rfl⟩ h
      · rfl
    simp [none_cut]

/-- A scheme that was cut off can be put back. -/
theorem splitScheme_append (text : List Char) :
    (match (splitScheme text).1 with
      | some scheme => scheme ++ [':']
      | none => []) ++ (splitScheme text).2 = text := by
  have happ := splitBefore_append (· = ':') text
  rcases h : splitBefore (· = ':') text with ⟨before, _ | ⟨c, rest⟩⟩
  · simp [splitScheme, h]
  · have hc : c = ':' := by simpa using splitBefore_cons h
    by_cases hs : isScheme before = true
    · simpa [splitScheme, h, hs, hc] using happ
    · simp [splitScheme, h, hs]

/-- Writing the components of a text gives the text back. -/
theorem text_split (text : List Char) : (split text).text = text := by
  have h1 := splitScheme_append text
  have h2 := cutAt_append '#' (splitScheme text).2
  have h3 := cutAt_append '?' (cutAt '#' (splitScheme text).2).1
  have h4 := splitAuthority_append (cutAt '?' (cutAt '#' (splitScheme text).2).1).1
  simp only [split, Reference.text]
  have assoc (a b c d e : List Char) : a ++ (b ++ (c ++ (d ++ e))) = a ++ (((b ++ c) ++ d) ++ e) := by
    simp
  rw [assoc, h4, h3, h2, h1]

theorem scheme_split (text : List Char) :
    (split text).scheme = (splitScheme text).1 := rfl

theorem fragment_split (text : List Char) :
    (split text).fragment = (cutAt '#' (splitScheme text).2).2 := rfl

/-- A scheme holds only the characters of schemes. -/
theorem not_mem_scheme {text : List Char} {c : Char} (refused : isSchemeChar c = false)
    (h : isScheme text = true) : c ∉ text := by
  intro there
  cases text with
  | nil => cases there
  | cons first rest =>
    simp only [isScheme, Bool.and_eq_true, List.all_eq_true] at h
    rcases List.mem_cons.1 there with rfl | there
    · simp [isSchemeChar, Char.isAlphanum, h.1] at refused
    · rw [h.2 c there] at refused
      cases refused

end Reference

/-- Whether a text is an absolute IRI. -/
def isAbsolute (iri : String) : Bool :=
  let reference := Reference.split iri.toList
  reference.scheme.isSome && reference.isValid

/-- An absolute IRI has one hash at most, the one before its fragment. -/
theorem count_hash_le_one {iri : String} (h : isAbsolute iri = true) :
    iri.toList.count '#' ≤ 1 := by
  simp only [isAbsolute, Reference.isValid, Reference.scheme_split, Reference.fragment_split,
    Bool.and_eq_true] at h
  obtain ⟨hasScheme, ⟨⟨⟨⟨schemeValid, -⟩, -⟩, -⟩, fragmentValid⟩⟩ := h
  obtain ⟨scheme, isScheme⟩ := Option.isSome_iff_exists.1 hasScheme
  have schemeText := Reference.splitScheme_append iri.toList
  have fragmentText := Reference.cutAt_append '#' (Reference.splitScheme iri.toList).2
  have noHash := Reference.not_mem_cutAt '#' (Reference.splitScheme iri.toList).2
  rw [isScheme] at schemeValid schemeText
  have none_in_scheme : scheme.count '#' = 0 :=
    List.count_eq_zero.2 (Reference.not_mem_scheme (by decide) schemeValid)
  rw [← schemeText, ← fragmentText]
  cases isFragment : (Reference.cutAt '#' (Reference.splitScheme iri.toList).2).2 with
  | none => simp [none_in_scheme, List.count_eq_zero.2 noHash]
  | some fragment =>
    rw [isFragment] at fragmentValid
    have none_in_fragment : '#' ∉ fragment :=
      not_mem_of_consistsOf (by decide) (by decide) (by decide) fragmentValid
    simp [none_in_scheme, List.count_eq_zero.2 noHash, List.count_eq_zero.2 none_in_fragment]

end LinkedShapes.Iri
