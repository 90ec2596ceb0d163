import LinkedShapes.Iri.Reference

/-!
# Resolution of references

A reference is completed with the components of a base IRI that it lacks. Its path is walked from the
directory of the base, or from the root: a single dot stays in a directory and two dots go to the one
above. Only these segments of the reference are acted on: those that the base itself has, and those of a
reference with an authority or a scheme of its own, are kept as they are written.

## Main statements

* `walk?_singleton`: a single segment that is not dots is added to the directory.
* `resolve?_of_not_isAbsolute`: nothing is resolved against a text that is not an absolute IRI.
-/

namespace LinkedShapes.Iri

/-- A path up to and with its last slash. -/
def directory (path : List Char) : List Char :=
  (path.reverse.dropWhile (· ≠ '/')).reverse

/-- The directory to start from: below an authority the root stands for an empty path. -/
def rootedDirectory (rooted : Bool) (path : List Char) : List Char :=
  match directory path with
  | [] => if rooted then ['/'] else []
  | found => found

/-- The directory above one. -/
def above (rooted : Bool) (path : List Char) : List Char :=
  rootedDirectory rooted path.dropLast

/-- The path reached from a directory by the segments of another path; none if it would start with two
slashes without an authority before them, which would be read as the start of one. -/
def walk? (rooted : Bool) (path : List Char) : List (List Char) → Option (List Char)
  | [] => some path
  | ['.'] :: rest => walk? rooted path rest
  | ['.', '.'] :: rest => walk? rooted (above rooted path) rest
  | [last] => some (path ++ last)
  | segment :: rest =>
    let path := path ++ segment ++ ['/']
    if !rooted && ['/', '/'].isPrefixOf path then none else walk? rooted path rest

/-- A single segment that is not dots is added to the directory. -/
theorem walk?_singleton {rooted : Bool} {path segment : List Char} (one : segment ≠ ['.'])
    (two : segment ≠ ['.', '.']) : walk? rooted path [segment] = some (path ++ segment) := by
  rw [walk?]
  · exact one
  · exact two

/-- The components that a reference stands for against a base; none if its path can not be walked. -/
def Reference.against? (reference base : Reference) : Option Reference :=
  let rooted := base.authority.isSome
  if reference.scheme.isSome then some reference
  else if reference.authority.isSome then some { reference with scheme := base.scheme }
  else
    match reference.path with
    | [] =>
      some { base with
        query := if reference.query.isSome then reference.query else base.query
        fragment := reference.fragment }
    | c :: rest =>
      let walked :=
        if c = '/' then walk? rooted ['/'] (rest.splitOn '/')
        else walk? rooted (rootedDirectory rooted base.path) (reference.path.splitOn '/')
      walked.map fun path =>
        { scheme := base.scheme
          authority := base.authority
          path
          query := reference.query
          fragment := reference.fragment }

/-- The IRI that a reference stands for against a base; none if the base is not an absolute IRI or
the reference is not well formed. -/
def resolve? (base reference : String) : Option String :=
  let parts := Reference.split reference.toList
  if isAbsolute base && parts.isValid && !parts.hasColonInFirstSegment then
    (parts.against? (Reference.split base.toList)).map fun resolved => String.ofList resolved.text
  else none

theorem resolve?_of_not_isAbsolute {base reference : String} (h : isAbsolute base = false) :
    resolve? base reference = none := by
  simp [resolve?, h]

end LinkedShapes.Iri
