import LinkedShapes.Proofs.AbsoluteIris
import Mathlib.Data.List.TakeWhile

/-!
# Slugs

The document of a new entity is named after a slug by writing the slug after the URL of the container. A
reference is not written after a URL but resolved against it, and the segments that are dots are acted on
then. For most slugs this is the same; the two that are dots are no names but steps, to the container itself
and to the one above it, and they are not told apart from the others.

## Main statements

* `Reference.split_text`: the components of a reference can be read back from its text.
* `walk?_append_singleton`: the segments before the last one lead to a directory, whatever the last one is.
* `slugs_name_children_iff`: which slugs are taken, what is made of them, and which of them name a child of
  the container.
-/

namespace LinkedShapes.Iri

/-! ### Characters of components -/

section Characters

variable {allowed other : Char → Bool} {c : Char} {text more : List Char}

theorem consistsOf_cons_of_ne (noEscape : c ≠ '%') :
    consistsOf allowed (c :: text) = (allowed c && consistsOf allowed text) := by
  rw [consistsOf]
  · simp [noEscape]
  · rintro _ _ _ rfl
    exact absurd rfl noEscape

/-- No escape reaches over the end of a well-formed text. -/
theorem consistsOf_append (wellFormed : consistsOf allowed text = true) :
    consistsOf allowed (text ++ more) = consistsOf allowed more := by
  fun_induction consistsOf allowed text with
  | case1 => rfl
  | case2 a b rest ih =>
    simp only [Bool.and_eq_true] at wellFormed
    simp [consistsOf, wellFormed.1, ih wellFormed.2]
  | case3 c rest _ ih =>
    simp only [Bool.and_eq_true, decide_eq_true_eq] at wellFormed
    obtain ⟨⟨noEscape, isAllowed⟩, wellFormed⟩ := wellFormed
    rw [List.cons_append, consistsOf_cons_of_ne noEscape, isAllowed, ih wellFormed, Bool.true_and]

/-- Only the characters that a text has decide. -/
theorem consistsOf_congr (same : ∀ c ∈ text, allowed c = other c) :
    consistsOf allowed text = consistsOf other text := by
  fun_induction consistsOf allowed text with
  | case1 => rfl
  | case2 a b rest ih =>
    rw [consistsOf, ih fun c mem => same c (by simp [mem])]
  | case3 c rest notEscape ih =>
    rw [consistsOf, ih fun d mem => same d (List.mem_cons_of_mem _ mem), same c List.mem_cons_self]
    exact notEscape

/-- What is one segment of a path holds the characters of segments. -/
theorem consistsOf_isPathChar_of_segment (oneSegment : '/' ∉ text) :
    consistsOf isPathChar text = consistsOf isSegmentChar text := by
  refine consistsOf_congr fun c mem => ?_
  have noSlash : c ≠ '/' := fun slash => oneSegment (slash ▸ mem)
  simp [isPathChar, noSlash]

/-- What holds the characters of segments has none of the characters that end a segment. -/
theorem not_mem_of_segment (wellFormed : consistsOf isSegmentChar text = true) :
    '/' ∉ text ∧ '?' ∉ text ∧ '#' ∉ text :=
  ⟨not_mem_of_consistsOf (by decide) (by decide) (by decide) wellFormed,
    not_mem_of_consistsOf (by decide) (by decide) (by decide) wellFormed,
    not_mem_of_consistsOf (by decide) (by decide) (by decide) wellFormed⟩

/-- A segment can be a fragment. -/
theorem consistsOf_isFragmentChar_of_segment (wellFormed : consistsOf isSegmentChar text = true) :
    consistsOf isFragmentChar text = true := by
  obtain ⟨noSlash, noQuestion, -⟩ := not_mem_of_segment wellFormed
  rw [← wellFormed]
  refine consistsOf_congr fun c mem => ?_
  have notSlash : c ≠ '/' := fun slash => noSlash (slash ▸ mem)
  have notQuestion : c ≠ '?' := fun question => noQuestion (question ▸ mem)
  simp [isFragmentChar, isPathChar, notSlash, notQuestion]

end Characters

/-! ### The components of a text -/

namespace Reference

/-- The components of a reference with an authority hold none of the characters that end them. -/
structure IsApart (reference : Reference) : Prop where
  /-- There is a scheme. -/
  scheme : ∃ scheme, reference.scheme = some scheme ∧ isScheme scheme = true
  /-- There is an authority. -/
  authority : ∃ authority, reference.authority = some authority ∧
    ∀ c ∈ authority, c ≠ '/' ∧ c ≠ '?' ∧ c ≠ '#'
  /-- The path starts at the root. -/
  path : reference.path.head?.all (· = '/') = true ∧ ∀ c ∈ reference.path, c ≠ '?' ∧ c ≠ '#'
  /-- The fragment is not in the query. -/
  query : ∀ query, reference.query = some query → ∀ c ∈ query, c ≠ '#'

theorem splitBefore_append_cons {stop : Char → Bool} {before rest : List Char} {c : Char}
    (free : ∀ d ∈ before, stop d = false) (ends : stop c = true) :
    splitBefore stop (before ++ c :: rest) = (before, c :: rest) := by
  rw [splitBefore_append_of_free free]
  simp [splitBefore, ends]

/-- A text after its delimiter is cut off, if there is one. -/
theorem cutAt_append_elim {delimiter : Char} {before : List Char} (free : delimiter ∉ before)
    (after : Option (List Char)) :
    cutAt delimiter (before ++ after.elim [] (delimiter :: ·)) = (before, after) := by
  have free : ∀ c ∈ before, decide (c = delimiter) = false :=
    fun c mem => decide_eq_false fun same => free (same ▸ mem)
  cases after with
  | none => simp [cutAt, splitBefore_of_free free]
  | some after => rw [cutAt, Option.elim_some, splitBefore_append_cons free (decide_eq_true rfl)]

theorem splitAuthority_cons_append {authority path : List Char} (free : ∀ c ∈ authority, c ≠ '/')
    (rooted : path.head?.all (· = '/') = true) :
    splitAuthority ('/' :: '/' :: (authority ++ path)) = (some authority, path) := by
  have free : ∀ c ∈ authority, decide (c = '/') = false := fun c mem => decide_eq_false (free c mem)
  cases path with
  | nil => simp [splitAuthority, splitBefore_of_free free]
  | cons c rest =>
    have ends : decide (c = '/') = true := by simpa using rooted
    rw [splitAuthority, splitBefore_append_cons free ends]

/-- The components of a reference that are apart can be read back from its text. -/
theorem split_text {reference : Reference} (apart : reference.IsApart) :
    split reference.text = reference := by
  obtain ⟨scheme, authority, path, query, fragment⟩ := reference
  obtain ⟨⟨scheme, rfl, isScheme⟩, ⟨authority, rfl, ofAuthority⟩, ⟨rooted, ofPath⟩, ofQuery⟩ :=
    apart
  have parts : text ⟨some scheme, some authority, path, query, fragment⟩ =
      scheme ++ ':' :: (('/' :: '/' :: (authority ++ path) ++ query.elim [] ('?' :: ·)) ++
        fragment.elim [] ('#' :: ·)) := by
    cases query <;> cases fragment <;> simp [text]
  have noQuestion : '?' ∉ '/' :: '/' :: (authority ++ path) := by
    simp only [List.mem_cons, List.mem_append, not_or]
    exact ⟨by decide, by decide, fun mem => (ofAuthority _ mem).2.1 rfl,
      fun mem => (ofPath _ mem).1 rfl⟩
  have noHash : '#' ∉ '/' :: '/' :: (authority ++ path) ++ query.elim [] ('?' :: ·) := by
    simp only [List.cons_append, List.mem_cons, List.mem_append, not_or]
    refine ⟨by decide, by decide, ⟨fun mem => (ofAuthority _ mem).2.2 rfl,
      fun mem => (ofPath _ mem).2 rfl⟩, ?_⟩
    cases query with
    | none => exact List.not_mem_nil
    | some query =>
      rw [Option.elim_some, List.mem_cons, not_or]
      exact ⟨by decide, fun mem => ofQuery query rfl _ mem rfl⟩
  rw [parts, split, splitScheme_of_isScheme isScheme]
  simp only
  rw [cutAt_append_elim noHash, cutAt_append_elim noQuestion,
    splitAuthority_cons_append (fun c mem => (ofAuthority c mem).1) rooted]

end Reference

/-! ### Walks over segments -/

/-- A path from the root that names a directory. -/
structure IsDirectory (path : List Char) : Prop where
  /-- It starts at the root. -/
  first : path.head? = some '/'
  /-- It ends with a slash. -/
  last : path.getLast? = some '/'

theorem isDirectory_root : IsDirectory ['/'] := ⟨rfl, rfl⟩

theorem rootedDirectory_of_isDirectory {path : List Char} (isDirectory : IsDirectory path) :
    rootedDirectory true path = path := by
  obtain ⟨before, rfl⟩ := List.getLast?_eq_some_iff.1 isDirectory.last
  have whole : directory (before ++ ['/']) = before ++ ['/'] := by
    simp [directory]
  unfold rootedDirectory
  split
  · rename_i empty
    rw [whole] at empty
    simp at empty
  · exact whole

theorem directory_isPrefix (path : List Char) : directory path <+: path := by
  rw [directory, ← List.reverse_suffix, List.reverse_reverse]
  exact List.dropWhile_suffix _

/-- Of a path from the root there is a directory, which is a start of it. -/
theorem isDirectory_directory {path : List Char} (first : path.head? = some '/') :
    IsDirectory (directory path) := by
  have slash : '/' ∈ path.reverse := by
    rw [List.mem_reverse]
    exact List.mem_of_head? first
  obtain ⟨c, rest, found⟩ : ∃ c rest, path.reverse.dropWhile (· ≠ '/') = c :: rest := by
    refine List.exists_cons_of_ne_nil fun empty => ?_
    simpa using List.dropWhile_eq_nil_iff.1 empty '/' slash
  have last : c = '/' := by
    have stops := List.head?_dropWhile_not (fun c : Char => decide (c ≠ '/')) path.reverse
    rw [found] at stops
    simpa using stops
  have made : directory path = rest.reverse ++ ['/'] := by
    rw [directory, found, last, List.reverse_cons]
  refine ⟨?_, by rw [made]; simp⟩
  obtain ⟨more, whole⟩ := directory_isPrefix path
  rw [← whole, made] at first
  rw [made]
  cases turned : rest.reverse <;> simp_all

/-- The directory above one is a start of it. -/
theorem isDirectory_above {path : List Char} (isDirectory : IsDirectory path) :
    IsDirectory (above true path) ∧ above true path <+: path := by
  obtain ⟨rest, rfl⟩ := List.head?_eq_some_iff.1 isDirectory.first
  cases rest with
  | nil => exact ⟨isDirectory_root, List.prefix_refl _⟩
  | cons c rest =>
    have start : directory ('/' :: (c :: rest).dropLast) <+: '/' :: c :: rest :=
      (directory_isPrefix _).trans (List.dropLast_prefix ('/' :: c :: rest))
    have found := @isDirectory_directory ('/' :: (c :: rest).dropLast) rfl
    have reached : above true ('/' :: c :: rest) = directory ('/' :: (c :: rest).dropLast) := by
      rw [above, rootedDirectory, List.dropLast_cons_cons]
      split
      · rename_i empty
        rw [empty] at found
        cases found.first
      · rfl
    rw [reached]
    exact ⟨found, start⟩

theorem walk?_cons {path segment : List Char} {rest : List (List Char)} (one : segment ≠ ['.'])
    (two : segment ≠ ['.', '.']) (goesOn : rest ≠ []) :
    walk? true path (segment :: rest) = walk? true (path ++ segment ++ ['/']) rest := by
  rw [walk?]
  · simp
  · exact one
  · exact two
  · exact goesOn

/-- The segments before the last one lead to a directory. -/
theorem walk?_append_singleton {start : List Char} (isDirectory : IsDirectory start)
    (segments : List (List Char)) :
    ∃ reached, IsDirectory reached ∧
      ∀ last, walk? true start (segments ++ [last]) = walk? true reached [last] := by
  induction segments generalizing start with
  | nil => exact ⟨start, isDirectory, fun _ => rfl⟩
  | cons segment rest ih =>
    by_cases one : segment = ['.']
    · subst one
      obtain ⟨reached, ends, walks⟩ := ih isDirectory
      exact ⟨reached, ends, fun last => by rw [List.cons_append, walk?, walks]⟩
    · by_cases two : segment = ['.', '.']
      · subst two
        obtain ⟨reached, ends, walks⟩ := ih (isDirectory_above isDirectory).1
        exact ⟨reached, ends, fun last => by rw [List.cons_append, walk?, walks]⟩
      · have below : IsDirectory (start ++ segment ++ ['/']) := by
          obtain ⟨more, rfl⟩ := List.head?_eq_some_iff.1 isDirectory.first
          exact ⟨rfl, List.getLast?_concat⟩
        obtain ⟨reached, ends, walks⟩ := ih below
        refine ⟨reached, ends, fun last => ?_⟩
        rw [List.cons_append, walk?_cons one two (by simp), walks last]

/-! ### Containers -/

/-- An absolute IRI with a host that ends with the slash of its path. -/
structure IsContainerUrl (url : String) : Prop where
  /-- It is an absolute IRI. -/
  isAbsolute : isAbsolute url = true
  /-- There is a host, which is not empty. -/
  authority : ∃ c rest, (Reference.split url.toList).authority = some (c :: rest)
  /-- There is no query. -/
  query : (Reference.split url.toList).query = none
  /-- There is no fragment. -/
  fragment : (Reference.split url.toList).fragment = none
  /-- It ends with a slash. -/
  slash : url.toList.getLast? = some '/'

namespace Reference

/-- An authority that is cut off ends where a path starts. -/
theorem splitAuthority_eq_some {text authority : List Char}
    (cut : (splitAuthority text).1 = some authority) :
    text = '/' :: '/' :: (authority ++ (splitAuthority text).2) ∧ (∀ c ∈ authority, c ≠ '/') ∧
      (splitAuthority text).2.head?.all (· = '/') = true := by
  have whole := splitAuthority_append text
  rw [cut] at whole
  refine ⟨whole.symm, ?_⟩
  unfold splitAuthority at cut ⊢
  split at cut
  · rename_i rest
    obtain rfl := Option.some.inj cut
    refine ⟨fun c mem => by simpa using List.all_eq_true.1 List.all_takeWhile c mem, ?_⟩
    have stops := List.head?_dropWhile_not (fun c : Char => !decide (c = '/')) rest
    dsimp only [splitBefore]
    cases after : rest.dropWhile fun c => !decide (c = '/') with
    | nil => rfl
    | cons c path =>
      rw [after] at stops
      simpa using stops
  · cases cut

/-- The components of a text with a scheme and an authority are apart. -/
theorem isApart_split {text scheme authority : List Char}
    (hasScheme : (split text).scheme = some scheme) (valid : isScheme scheme = true)
    (hasAuthority : (split text).authority = some authority) : (split text).IsApart := by
  have cut : (splitAuthority (cutAt '?' (cutAt '#' (splitScheme text).2).1).1).1 =
      some authority := hasAuthority
  obtain ⟨whole, noSlash, rooted⟩ := splitAuthority_eq_some cut
  have noQuestion := not_mem_cutAt '?' (cutAt '#' (splitScheme text).2).1
  have noHash := not_mem_cutAt '#' (splitScheme text).2
  rw [← cutAt_append '?' (cutAt '#' (splitScheme text).2).1, List.mem_append, not_or] at noHash
  rw [whole] at noQuestion noHash
  simp only [List.mem_cons, List.mem_append, not_or] at noQuestion noHash
  constructor
  case scheme => exact ⟨scheme, hasScheme, valid⟩
  case authority =>
    refine ⟨authority, hasAuthority, fun c mem => ⟨noSlash c mem, ?_, ?_⟩⟩
    · rintro rfl
      exact noQuestion.2.2.1 mem
    · rintro rfl
      exact noHash.1.2.2.1 mem
  case path =>
    refine ⟨rooted, fun c mem => ⟨?_, ?_⟩⟩
    · rintro rfl
      exact noQuestion.2.2.2 mem
    · rintro rfl
      exact noHash.1.2.2.2 mem
  case query =>
    intro query hasQuery c mem hash
    have cut : (cutAt '?' (cutAt '#' (splitScheme text).2).1).2 = some query := hasQuery
    refine noHash.2 ?_
    rw [cut]
    exact List.mem_cons_of_mem _ (hash ▸ mem)

/-- What is written after a text without query and fragment is the end of its path. -/
theorem text_append {reference : Reference} {more : List Char} {fragment : Option (List Char)}
    (noQuery : reference.query = none) (noFragment : reference.fragment = none) :
    text { reference with path := reference.path ++ more, fragment } =
      reference.text ++ more ++ fragment.elim [] ('#' :: ·) := by
  simp only [text, noQuery, noFragment]
  cases fragment <;> simp

/-- Without query and fragment, a start of the path is the end of a start of the text. -/
theorem text_isPrefix {reference : Reference} {path : List Char} (start : path <+: reference.path)
    (noQuery : reference.query = none) (noFragment : reference.fragment = none) :
    text { reference with path } <+: reference.text := by
  obtain ⟨more, whole⟩ := start
  refine ⟨more, ?_⟩
  simp only [text, noQuery, noFragment, ← whole, List.append_nil, List.append_assoc]

end Reference

namespace IsContainerUrl

variable {url : String} {name : List Char}

/-- The components of the URL of a container are apart. -/
theorem isApart (isContainer : IsContainerUrl url) : (Reference.split url.toList).IsApart := by
  obtain ⟨isAbsolute, ⟨c, rest, hasAuthority⟩, -, -, -⟩ := isContainer
  simp only [Iri.isAbsolute, Reference.isValid, Bool.and_eq_true] at isAbsolute
  obtain ⟨hasScheme, ⟨⟨⟨valid, -⟩, -⟩, -⟩, -⟩ := isAbsolute
  obtain ⟨scheme, hasScheme⟩ := Option.isSome_iff_exists.1 hasScheme
  rw [hasScheme] at valid
  exact Reference.isApart_split hasScheme valid hasAuthority

/-- The path of the URL of a container is that of a directory. -/
theorem isDirectory_path (isContainer : IsContainerUrl url) :
    IsDirectory (Reference.split url.toList).path := by
  obtain ⟨c, rest, hasAuthority⟩ := isContainer.authority
  obtain ⟨authority, same, free⟩ := isContainer.isApart.authority
  obtain rfl : authority = c :: rest := Option.some.inj (same.symm.trans hasAuthority)
  have rooted := isContainer.isApart.path.1
  have slash := isContainer.slash
  rw [← Reference.text_split url.toList] at slash
  simp only [Reference.text, hasAuthority, isContainer.query, isContainer.fragment,
    List.append_nil, List.getLast?_append] at slash
  cases path : (Reference.split url.toList).path with
  | nil =>
    -- a host does not end with a slash
    obtain ⟨last, ends⟩ := Option.isSome_iff_exists.1 (List.getLast?_isSome.2 (List.cons_ne_nil c rest))
    have isSlash : last = '/' := by
      simpa [path, List.getLast?_cons_cons, ends] using slash
    exact absurd isSlash (free last (List.mem_of_getLast? ends)).1
  | cons d more =>
    rw [path] at rooted slash
    have isSlash : d = '/' := by simpa using rooted
    refine ⟨by rw [isSlash, List.head?_cons], ?_⟩
    have ends : (d :: more).getLast?.isSome = true := List.getLast?_isSome.2 (List.cons_ne_nil d more)
    simpa [Option.or_of_isSome ends] using slash

/-- The components of the URL of a container with a name after it. -/
theorem split_append (isContainer : IsContainerUrl url) (noQuestion : '?' ∉ name)
    (noHash : '#' ∉ name) (fragment : Option (List Char)) :
    Reference.split (url.toList ++ name ++ fragment.elim [] ('#' :: ·)) =
      { Reference.split url.toList with
        path := (Reference.split url.toList).path ++ name, fragment } := by
  have apart := isContainer.isApart
  have whole := @Reference.text_append _ name fragment isContainer.query
    isContainer.fragment
  rw [Reference.text_split] at whole
  rw [← whole, Reference.split_text]
  refine ⟨apart.scheme, apart.authority, ⟨?_, fun c mem => ?_⟩, apart.query⟩
  · obtain ⟨rest, path⟩ := List.head?_eq_some_iff.1 isContainer.isDirectory_path.first
    simp [path]
  · rcases List.mem_append.1 mem with mem | mem
    · exact apart.path.2 c mem
    · exact ⟨fun question => noQuestion (question ▸ mem), fun hash => noHash (hash ▸ mem)⟩

/-- A name after the URL of a container, once more as a fragment, makes an absolute IRI if it is a segment. -/
theorem isAbsolute_append_iff (isContainer : IsContainerUrl url) {name : String}
    (noSlash : '/' ∉ name.toList) (noQuestion : '?' ∉ name.toList) (noHash : '#' ∉ name.toList) :
    Iri.isAbsolute (url ++ name ++ "#" ++ name) = true ↔
      consistsOf isSegmentChar name.toList = true := by
  have parts := isContainer.split_append noQuestion noHash (some name.toList)
  have ofContainer := isContainer.isAbsolute
  simp only [Iri.isAbsolute, Reference.isValid, isContainer.query, isContainer.fragment,
    Bool.and_eq_true, Option.all_none] at ofContainer
  obtain ⟨hasScheme, ⟨⟨⟨scheme, authority⟩, path⟩, -⟩, -⟩ := ofContainer
  have whole : (url ++ name ++ "#" ++ name).toList =
      url.toList ++ name.toList ++ (some name.toList).elim [] ('#' :: ·) := by
    simp
  simp only [Iri.isAbsolute, whole, parts, Reference.isValid, Bool.and_eq_true, isContainer.query,
    Option.all_none, Option.all_some, hasScheme, scheme, authority, consistsOf_append path,
    consistsOf_isPathChar_of_segment noSlash, true_and, and_true]
  exact ⟨And.left, fun segment => ⟨segment, consistsOf_isFragmentChar_of_segment segment⟩⟩

end IsContainerUrl

/-! ### Names in a container -/

/-- The path of an IRI once its dots are acted on, from the root on. -/
def plainPath? (iri : String) : Option (List Char) :=
  walk? true ['/'] (((Reference.split iri.toList).path.drop 1).splitOn '/')

/-- The texts that are no names but steps, to the same directory or to the one above. -/
def IsDots (name : String) : Prop := name = "." ∨ name = ".."

instance (name : String) : Decidable (IsDots name) := inferInstanceAs (Decidable (_ ∨ _))

section Names

variable {url name : String}

/-- The path of a name after the URL of a container is walked like the name from a directory. -/
theorem plainPath?_append (isContainer : IsContainerUrl url) :
    ∃ directory, IsDirectory directory ∧ plainPath? url = some directory ∧
      ∀ name : String, consistsOf isSegmentChar name.toList = true →
        plainPath? (url ++ name) = walk? true directory [name.toList] := by
  obtain ⟨rest, path⟩ := List.head?_eq_some_iff.1 isContainer.isDirectory_path.first
  -- the name is a segment of its own, as the path of the container ends with a slash
  obtain ⟨segments, cut⟩ : ∃ segments, ∀ name, '/' ∉ name →
      (rest ++ name).splitOn '/' = segments ++ [name] := by
    have last := isContainer.isDirectory_path.last
    rw [path] at last
    cases rest with
    | nil => exact ⟨[], fun name noSlash => List.splitOn_eq_singleton noSlash⟩
    | cons c more =>
      rw [List.getLast?_cons_cons] at last
      obtain ⟨before, whole⟩ := List.getLast?_eq_some_iff.1 last
      refine ⟨before.splitOn '/', fun name noSlash => ?_⟩
      rw [whole, List.append_assoc, List.singleton_append,
        List.splitOn_append_cons_self, List.splitOn_eq_singleton noSlash]
  obtain ⟨directory, isDirectory, walks⟩ := walk?_append_singleton isDirectory_root segments
  refine ⟨directory, isDirectory, ?_, fun name segment => ?_⟩
  · have cut := cut [] List.not_mem_nil
    rw [List.append_nil] at cut
    rw [plainPath?, path, List.drop_one, List.tail_cons, cut, walks,
      walk?_singleton (by decide) (by decide), List.append_nil]
  · obtain ⟨noSlash, noQuestion, noHash⟩ := not_mem_of_segment segment
    have parts := isContainer.split_append noQuestion noHash none
    rw [Option.elim_none, List.append_nil, path] at parts
    rw [plainPath?, String.toList_append, parts]
    dsimp only
    rw [List.cons_append, List.drop_one, List.tail_cons, cut _ noSlash, walks]

/-- The components of a name after a dot and a slash. -/
theorem split_dotSlash (noQuestion : '?' ∉ name.toList) (noHash : '#' ∉ name.toList) :
    Reference.split ("./" ++ name).toList = ⟨none, none, '.' :: '/' :: name.toList, none, none⟩ := by
  have text : ("./" ++ name).toList = '.' :: '/' :: name.toList := by simp
  have noScheme : Reference.splitScheme ('.' :: '/' :: name.toList) =
      (none, '.' :: '/' :: name.toList) := by
    unfold Reference.splitScheme
    split
    · rename_i before c rest cut
      have starts : before = ('.' :: '/' :: name.toList).takeWhile fun c => !decide (c = ':') :=
        (congrArg Prod.fst cut).symm
      have invalid : isScheme before = false := by
        rw [starts]
        rfl
      rw [invalid, if_neg Bool.false_ne_true]
    · rfl
  have fragment := @Reference.cutAt_append_elim '#' ('.' :: '/' :: name.toList) (by simpa) none
  have query := @Reference.cutAt_append_elim '?' ('.' :: '/' :: name.toList) (by simpa) none
  rw [Option.elim_none, List.append_nil] at fragment query
  rw [text, Reference.split, noScheme]
  dsimp only
  rw [fragment]
  dsimp only
  rw [query]
  rfl

/-- A name after a dot and a slash is walked from the path of the container. -/
theorem resolve?_dotSlash (isContainer : IsContainerUrl url)
    (segment : consistsOf isSegmentChar name.toList = true) :
    resolve? url ("./" ++ name) =
      (walk? true (Reference.split url.toList).path [name.toList]).map fun path =>
        String.ofList (Reference.text { Reference.split url.toList with path }) := by
  obtain ⟨noSlash, noQuestion, noHash⟩ := not_mem_of_segment segment
  obtain ⟨authority, hasAuthority, -⟩ := isContainer.isApart.authority
  have valid : consistsOf isPathChar ('.' :: '/' :: name.toList) = true := by
    rw [consistsOf_cons_of_ne (by decide), consistsOf_cons_of_ne (by decide),
      consistsOf_isPathChar_of_segment noSlash, segment]
    rfl
  have segments : ('.' :: '/' :: name.toList).splitOn '/' = [['.'], name.toList] := by
    simp [List.splitOn_cons_eq_if_modifyHead, List.splitOn_eq_singleton noSlash]
  have accepted : (isAbsolute url &&
      Reference.isValid ⟨none, none, '.' :: '/' :: name.toList, none, none⟩ &&
      !Reference.hasColonInFirstSegment ⟨none, none, '.' :: '/' :: name.toList, none, none⟩) = true := by
    simp [isContainer.isAbsolute, Reference.isValid, valid, Reference.hasColonInFirstSegment]
  have against : Reference.against? ⟨none, none, '.' :: '/' :: name.toList, none, none⟩
      (Reference.split url.toList) =
        (walk? true (Reference.split url.toList).path [name.toList]).map fun path =>
          { Reference.split url.toList with path } := by
    have directory := rootedDirectory_of_isDirectory isContainer.isDirectory_path
    simp [Reference.against?, segments, hasAuthority, directory, walk?, isContainer.query,
      isContainer.fragment]
  rw [resolve?, split_dotSlash noQuestion noHash]
  dsimp only
  rw [if_pos accepted, against, Option.map_map]
  rfl

/-- The dots lead from a directory to a start of it. -/
theorem walk?_of_isDots {path : List Char} (isDirectory : IsDirectory path) (isDots : IsDots name) :
    ∃ reached, walk? true path [name.toList] = some reached ∧ reached <+: path := by
  rcases isDots with rfl | rfl
  · exact ⟨path, rfl, List.prefix_refl _⟩
  · exact ⟨above true path, rfl, (isDirectory_above isDirectory).2⟩

theorem walk?_of_not_isDots {path : List Char} (notDots : ¬ IsDots name) :
    walk? true path [name.toList] = some (path ++ name.toList) := by
  rw [IsDots, not_or] at notDots
  refine walk?_singleton (fun one => notDots.1 ?_) fun two => notDots.2 ?_
  · exact String.toList_injective one
  · exact String.toList_injective two

end Names

end LinkedShapes.Iri

namespace LinkedShapes.Resolution

open Rdf Ldp Schema Attempt

/-! ### Documents that are named after a slug -/

/-- A name after the URL of a container names a child of the container. -/
structure NamesChild (container name : String) : Prop where
  /-- The name stands for the URL when it is taken for a reference. -/
  resolved : absolute ("./" ++ name) container = container ++ name
  /-- Once the dots are acted on, the URL is the name in the directory that the container is. -/
  plain : ∃ directory, Iri.plainPath? container = some directory ∧
    Iri.plainPath? (container ++ name) = some (directory ++ name.toList)

/-- A name after the URL of a container leads to the container itself or to one that it is in. -/
structure Leaves (container name : String) : Prop where
  /-- The name stands for the container or a start of it when it is taken for a reference. -/
  resolved : (absolute ("./" ++ name) container).toList <+: container.toList
  /-- Once the dots are acted on, the path is the one of the container or a start of it. -/
  plain : ∃ directory reached, Iri.plainPath? container = some directory ∧
    Iri.plainPath? (container ++ name) = some reached ∧ reached <+: directory

section Slugs

variable {σ : Type} {client : Client σ} {world after : World σ} {values : List (String × Json)}
  {container slug : String} {minted : String × String}

/-- The resolution of a name after a dot and a slash. -/
theorem absolute_dotSlash (isContainer : Iri.IsContainerUrl container)
    (segment : Iri.consistsOf Iri.isSegmentChar slug.toList = true) {path : List Char}
    (walked : Iri.walk? true (Iri.Reference.split container.toList).path [slug.toList] = some path) :
    (absolute ("./" ++ slug) container).toList =
      Iri.Reference.text { Iri.Reference.split container.toList with path } := by
  obtain ⟨-, noQuestion, noHash⟩ := Iri.not_mem_of_segment segment
  have starts : ("./" ++ slug).toList = '.' :: '/' :: slug.toList := by simp
  have filled : "./" ++ slug ≠ "" := by
    intro empty
    rw [empty] at starts
    cases starts
  have noFragment : ("./" ++ slug).toList.head? ≠ some '#' := by
    rw [starts, List.head?_cons]
    decide
  have relative : Iri.isAbsolute ("./" ++ slug) = false := by
    rw [Iri.isAbsolute, Iri.split_dotSlash noQuestion noHash]
    rfl
  rw [absolute, if_neg filled, if_neg noFragment, if_neg (by simp [relative]),
    Iri.resolve?_dotSlash isContainer segment, walked, Option.map_some, Option.getD_some,
    String.toList_ofList]

/-- A name that is not dots names a child. -/
theorem namesChild_of_not_isDots (isContainer : Iri.IsContainerUrl container)
    (segment : Iri.consistsOf Iri.isSegmentChar slug.toList = true) (notDots : ¬ Iri.IsDots slug) :
    NamesChild container slug := by
  constructor
  case resolved =>
    have resolved := absolute_dotSlash isContainer segment (Iri.walk?_of_not_isDots notDots)
    have text := @Iri.Reference.text_append _ slug.toList
      (Iri.Reference.split container.toList).fragment isContainer.query isContainer.fragment
    refine String.toList_injective ?_
    rw [resolved, text, Iri.Reference.text_split, isContainer.fragment, String.toList_append]
    simp
  case plain =>
    obtain ⟨directory, -, ofContainer, ofName⟩ := Iri.plainPath?_append isContainer
    exact ⟨directory, ofContainer, (ofName slug segment).trans (Iri.walk?_of_not_isDots notDots)⟩

/-- A name that is dots does not. -/
theorem leaves_of_isDots (isContainer : Iri.IsContainerUrl container)
    (segment : Iri.consistsOf Iri.isSegmentChar slug.toList = true) (isDots : Iri.IsDots slug) :
    Leaves container slug := by
  constructor
  case resolved =>
    obtain ⟨reached, walked, start⟩ := Iri.walk?_of_isDots isContainer.isDirectory_path isDots
    have text := Iri.Reference.text_isPrefix start isContainer.query isContainer.fragment
    rwa [Iri.Reference.text_split, ← absolute_dotSlash isContainer segment walked] at text
  case plain =>
    obtain ⟨directory, isDirectory, ofContainer, ofName⟩ := Iri.plainPath?_append isContainer
    obtain ⟨reached, walked, start⟩ := Iri.walk?_of_isDots isDirectory isDots
    exact ⟨directory, reached, ofContainer, (ofName slug segment).trans walked, start⟩

/-- A name that is not empty can not do both. -/
theorem NamesChild.not_leaves (filled : slug ≠ "") (child : NamesChild container slug) :
    ¬ Leaves container slug := by
  rintro ⟨start, -⟩
  have length := start.length_le
  rw [child.resolved, String.toList_append, List.length_append] at length
  have nonempty : slug.toList ≠ [] := fun empty => filled (String.toList_eq_nil_iff.1 empty)
  have positive := List.length_pos_iff.2 nonempty
  omega

/-- What is made of a slug if no identifier is given. -/
theorem returns_mintDocument_slug_iff (noIdentifier : inputText values identifierField = .ok none)
    (given : inputText values slugField = .ok (some slug)) :
    (mintDocument container values).Returns client world minted after ↔
      hasDelimiter slug = false ∧ Iri.isAbsolute (container ++ slug ++ "#" ++ slug) = true ∧
        minted = (container ++ slug, container ++ slug ++ "#" ++ slug) ∧ after = world := by
  have named : (nameOrFresh values).Returns client world slug world :=
    (returns_lift_bind_of_eq given).2 (returns_pure.2 ⟨rfl, rfl⟩)
  rw [mintDocument, returns_lift_bind_of_eq noIdentifier, returns_bind_of_returns named]
  dsimp only
  cases hasDelimiter slug with
  | true => exact iff_of_false not_returns_throw (by simp)
  | false =>
    constructor
    · intro ran
      obtain ⟨subject, checked, ran⟩ := returns_lift_bind.1 ran
      obtain ⟨rfl, isAbsolute⟩ := checkedIri_eq_ok_iff.1 checked
      obtain ⟨rfl, rfl⟩ := returns_pure.1 ran
      exact ⟨rfl, isAbsolute, rfl, rfl⟩
    · rintro ⟨-, isAbsolute, rfl, rfl⟩
      exact returns_lift_bind.2
        ⟨_, checkedIri_eq_ok_iff.2 ⟨rfl, isAbsolute⟩, returns_pure.2 ⟨rfl, rfl⟩⟩

theorem hasDelimiter_eq_false_iff :
    hasDelimiter slug = false ↔ '/' ∉ slug.toList ∧ '#' ∉ slug.toList ∧ '?' ∉ slug.toList := by
  simp only [hasDelimiter, List.any_eq_false, Bool.or_eq_true, decide_eq_true_eq, not_or]
  constructor
  · intro free
    exact ⟨fun mem => (free _ mem).1.1 rfl, fun mem => (free _ mem).1.2 rfl, fun mem => (free _ mem).2 rfl⟩
  · rintro ⟨noSlash, noHash, noQuestion⟩ c mem
    exact ⟨⟨fun same => noSlash (same ▸ mem), fun same => noHash (same ▸ mem)⟩,
      fun same => noQuestion (same ▸ mem)⟩

/-- A slug is taken if it is a segment of a path, and the document is named by writing it after the URL of the
container. All but two of these slugs name a child of the container so: the dots lead to the container itself
or to one that it is in. -/
theorem slugs_name_children_iff (isContainer : Iri.IsContainerUrl container)
    (noIdentifier : inputText values identifierField = .ok none)
    (given : inputText values slugField = .ok (some slug)) :
    ((mintDocument container values).Returns client world minted after ↔
      Iri.consistsOf Iri.isSegmentChar slug.toList = true ∧
        minted = (container ++ slug, container ++ slug ++ "#" ++ slug) ∧ after = world) ∧
    (Iri.consistsOf Iri.isSegmentChar slug.toList = true →
      (NamesChild container slug ↔ ¬ Iri.IsDots slug) ∧
      (Leaves container slug ↔ Iri.IsDots slug)) := by
  constructor
  · rw [returns_mintDocument_slug_iff noIdentifier given, hasDelimiter_eq_false_iff]
    constructor
    · rintro ⟨⟨noSlash, noHash, noQuestion⟩, isAbsolute, made⟩
      exact ⟨(isContainer.isAbsolute_append_iff noSlash noQuestion noHash).1 isAbsolute, made⟩
    · rintro ⟨segment, made⟩
      obtain ⟨noSlash, noQuestion, noHash⟩ := Iri.not_mem_of_segment segment
      exact ⟨⟨noSlash, noHash, noQuestion⟩,
        (isContainer.isAbsolute_append_iff noSlash noQuestion noHash).2 segment, made⟩
  · intro segment
    have filled := ne_empty_of_inputText given
    by_cases isDots : Iri.IsDots slug
    · have leaves := leaves_of_isDots isContainer segment isDots
      exact ⟨iff_of_false (fun child => child.not_leaves filled leaves) (not_not_intro isDots),
        iff_of_true leaves isDots⟩
    · have child := namesChild_of_not_isDots isContainer segment isDots
      exact ⟨iff_of_true child isDots, iff_of_false (child.not_leaves filled) isDots⟩

end Slugs

open AddressBook

theorem isContainerUrl_contacts : Iri.IsContainerUrl AddressBook.container :=
  ⟨by decide +kernel, ⟨_, _, rfl⟩, rfl, rfl, rfl⟩

/-- A name with a dot in it is a child of the container of the contacts; the two dots would leave it. -/
theorem slugs_name_children_iff_joe :
    (mintDocument AddressBook.container [(slugField, .string "joe.smith")]).Returns Store.client stored
      ("http://example.org/contacts/joe.smith", "http://example.org/contacts/joe.smith#joe.smith")
      stored ∧
    NamesChild AddressBook.container "joe.smith" ∧ Leaves AddressBook.container ".." := by
  obtain ⟨taken, names⟩ := @slugs_name_children_iff _ Store.client stored stored
    [(slugField, .string "joe.smith")] AddressBook.container "joe.smith" _ isContainerUrl_contacts rfl rfl
  obtain ⟨-, leads⟩ := @slugs_name_children_iff _ Store.client stored stored
    [(slugField, .string "..")] AddressBook.container ".." ("", "") isContainerUrl_contacts rfl rfl
  have segment : Iri.consistsOf Iri.isSegmentChar "joe.smith".toList = true := by decide +kernel
  exact ⟨taken.2 ⟨segment, rfl, rfl⟩, (names segment).1.2 (by decide),
    (leads (by decide +kernel)).2.2 (by decide)⟩

/-- A document that is named after two dots is not where the dots lead to from the container, but where the dots
of its URL lead to: outside the container. -/
theorem parent_named_by_slug :
    Iri.IsContainerUrl AddressBook.container ∧
    (mintDocument AddressBook.container [(slugField, .string "..")]).Returns Store.client stored
      ("http://example.org/contacts/..", "http://example.org/contacts/..#..") stored ∧
    absolute ("./" ++ "..") AddressBook.container = "http://example.org/" ∧
    Iri.plainPath? "http://example.org/contacts/.." = some ['/'] :=
  ⟨isContainerUrl_contacts, rfl, by decide +kernel, by decide +kernel⟩

end LinkedShapes.Resolution
