/-!
# Markers

A text is cut at the first place where a marker stands in it, and the marker is dropped.

## Main statements

* `splitAtMarker_eq_some`: a text is what stands before the marker, the marker and what stands after it.
-/

namespace LinkedShapes.Text

/-- The texts before and after the first place where a marker stands. -/
def splitAtMarker (marker : List Char) : List Char → Option (List Char × List Char)
  | [] => none
  | c :: rest =>
    if marker.isPrefixOf (c :: rest) then some ([], (c :: rest).drop marker.length)
    else (splitAtMarker marker rest).map fun (before, after) => (c :: before, after)

theorem splitAtMarker_eq_some {marker input before after : List Char}
    (h : splitAtMarker marker input = some (before, after)) : input = before ++ marker ++ after := by
  induction input generalizing before with
  | nil => simp [splitAtMarker] at h
  | cons c rest ih =>
    simp only [splitAtMarker] at h
    split at h
    · rename_i hp
      obtain ⟨tail, ht⟩ := List.isPrefixOf_iff_prefix.1 hp
      simp only [Option.some.injEq, Prod.mk.injEq] at h
      rw [← h.1, ← h.2, ← ht]
      simp
    · obtain ⟨⟨b, a⟩, hs, he⟩ := Option.map_eq_some_iff.1 h
      simp only [Prod.mk.injEq] at he
      obtain ⟨rfl, rfl⟩ := he
      simp [ih hs]

theorem splitAtMarker_singleton {marker : Char} {before : List Char} (h : marker ∉ before)
    (after : List Char) :
    splitAtMarker [marker] (before ++ marker :: after) = some (before, after) := by
  induction before with
  | nil => simp [splitAtMarker]
  | cons c rest ih =>
    rw [List.mem_cons, not_or] at h
    simp [splitAtMarker, h.1, ih h.2]

end LinkedShapes.Text
