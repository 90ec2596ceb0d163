import LinkedShapes.Number.Decimal
import LinkedShapes.Rdf.Term

/-!
# Labels of blank nodes

A node without a label in its document gets one that the document does not write.

## Main statements

* `freshNumber?_not_mem`: the label of the number found is not in use.
-/

namespace LinkedShapes.Rdf.BlankLabel

/-- The label of a number. -/
def ofNumber (n : Nat) : String := "genid" ++ Number.natText n

/-- The least number from `next` on whose label is not among those in use: of one candidate more than
there are labels, one is free. -/
def freshNumber? (used : List String) (next : Nat) : Option Nat :=
  ((List.range (used.length + 1)).map (next + ·)).find? fun n => ofNumber n ∉ used

theorem freshNumber?_not_mem {used : List String} {next n : Nat}
    (h : freshNumber? used next = some n) : ofNumber n ∉ used := by
  simpa using List.find?_some h

end LinkedShapes.Rdf.BlankLabel
