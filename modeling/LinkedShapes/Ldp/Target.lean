/-!
# Targets

Where the instances of a class are kept: a table of URLs by class, and a URL for the classes that are
not in it.

## Main statements

* `find?_withTarget_self`, `find?_withTarget_ne`: what is found after a target was set.
-/

namespace LinkedShapes.Ldp

/-- The URLs of the resources that hold the instances of classes. -/
structure Targets where
  /-- The URLs by class, the latest first. -/
  byClass : List (String × String) := []
  /-- The URL for all other classes, if there is one. -/
  fallback : Option String := none
  deriving DecidableEq, Inhabited

namespace Targets

/-- The table without any URL. -/
def empty : Targets := {}

/-- The table with the URL of a class set. -/
def withTarget (targets : Targets) (cls url : String) : Targets :=
  { targets with byClass := (cls, url) :: targets.byClass }

/-- The table with the URL for all other classes set. -/
def withFallback (targets : Targets) (url : String) : Targets :=
  { targets with fallback := some url }

/-- The URL for a class. -/
def find? (targets : Targets) (cls : String) : Option String :=
  match targets.byClass.find? (·.1 = cls) with
  | some (_, url) => some url
  | none => targets.fallback

@[simp]
theorem find?_withTarget_self (targets : Targets) (cls url : String) :
    (targets.withTarget cls url).find? cls = some url := by
  simp [find?, withTarget]

theorem find?_withTarget_ne {targets : Targets} {cls other url : String} (h : cls ≠ other) :
    (targets.withTarget cls url).find? other = targets.find? other := by
  simp [find?, withTarget, h]

end Targets

end LinkedShapes.Ldp
