/-!
# Paths

The paths of files: their segments, the name and the extension at their end, and the plain path among
those that lead to one file.
-/

namespace LinkedShapes.CommandLine.Path

/-- Whether a segment of a path leads nowhere else: it is empty or a single dot. -/
def isIdle (segment : List Char) : Bool := segment = [] || segment = ['.']

/-- The segments of a path without the idle ones before the last one. The last one counts: behind it
there is a file only if it names one. -/
def dropIdle : List (List Char) → List (List Char)
  | [] => []
  | [last] => [last]
  | segment :: rest => if isIdle segment then dropIdle rest else segment :: dropIdle rest

/-- The path without the idle segments that do not end it. A path from the root stays one from the
root. -/
def plain (path : String) : String :=
  let segments := path.toList.splitOn '/'
  let fromRoot := path.toList.head? = some '/'
  let kept := (dropIdle segments).map String.ofList
  (if fromRoot then "/" else "") ++ String.intercalate "/" kept

/-- The name of the file at the end of a path. -/
def fileName (path : String) : List Char :=
  let segments := (path.toList.splitOn '/').filter fun segment => !isIdle segment
  segments.getLast?.getD []

/-- What stands after the last dot in the name of a file, unless the name starts with that dot. -/
def extension? (path : String) : Option String :=
  let name := fileName path
  if name = ['.', '.'] then none
  else
    match name.reverse.dropWhile (· ≠ '.') with
    | [] | ['.'] => none
    | _ => some (String.ofList (name.reverse.takeWhile (· ≠ '.')).reverse)

end LinkedShapes.CommandLine.Path
