import LinkedShapes.Rdf.Graph

/-!
# Patches

A patch names the triples to insert into a document and the triples to delete from it. Its text is a
patch document in N3: each of the two lists stands in a block of its own, and an empty list has no
block.

## Main statements

* `mem_inserts_insert`, `mem_deletes_delete`: adding a triple to a list that has it changes nothing.
-/

namespace LinkedShapes.Ldp

open Rdf

/-- Triples to insert and triples to delete. -/
structure Patch where
  /-- The triples to insert. -/
  inserts : List Triple := []
  /-- The triples to delete. -/
  deletes : List Triple := []
  deriving DecidableEq, Inhabited

namespace Patch

/-- The media type of a patch document. -/
def mediaType : String := "text/n3"

/-- The patch that changes nothing. -/
def empty : Patch := {}

/-- The list with a triple at its end, unless it has the triple. -/
def addOnce (triples : List Triple) (triple : Triple) : List Triple :=
  if triple ∈ triples then triples else triples ++ [triple]

@[simp]
theorem mem_addOnce {triples : List Triple} {added triple : Triple} :
    triple ∈ addOnce triples added ↔ triple ∈ triples ∨ triple = added := by
  unfold addOnce
  split
  · rename_i h
    exact ⟨Or.inl, fun h' => h'.elim id fun e => e ▸ h⟩
  · simp

/-- The patch that also inserts a triple. -/
def insert (patch : Patch) (triple : Triple) : Patch :=
  { patch with inserts := addOnce patch.inserts triple }

/-- The patch that also deletes a triple. -/
def delete (patch : Patch) (triple : Triple) : Patch :=
  { patch with deletes := addOnce patch.deletes triple }

/-- The patch that also inserts some triples. -/
def insertAll (patch : Patch) (triples : List Triple) : Patch :=
  triples.foldl insert patch

/-- The patch that also deletes some triples. -/
def deleteAll (patch : Patch) (triples : List Triple) : Patch :=
  triples.foldl delete patch

@[simp]
theorem mem_inserts_insert {patch : Patch} {added triple : Triple} :
    triple ∈ (patch.insert added).inserts ↔ triple ∈ patch.inserts ∨ triple = added :=
  mem_addOnce

@[simp]
theorem mem_deletes_delete {patch : Patch} {added triple : Triple} :
    triple ∈ (patch.delete added).deletes ↔ triple ∈ patch.deletes ∨ triple = added :=
  mem_addOnce

/-- Whether the patch changes nothing. -/
def isEmpty (patch : Patch) : Bool :=
  patch.inserts.isEmpty && patch.deletes.isEmpty

/-- The graph after the patch: triples are deleted first, then inserted. -/
def apply (patch : Patch) (graph : Graph) : Graph :=
  graph.patch patch.inserts patch.deletes

/-- The block of a list of triples; an empty list has none. -/
def block (predicate : String) (triples : List Triple) : String :=
  if triples.isEmpty then ""
  else
    ";\n  " ++ iriText predicate ++ " \x7b" ++
      String.join (triples.map fun triple => " " ++ triple.text ++ " .") ++ " \x7d"

/-- The patch document. -/
def text (patch : Patch) : String :=
  "_:patch a " ++ iriText Solid.insertDeletePatch ++ block Solid.inserts patch.inserts ++
    block Solid.deletes patch.deletes ++ ".\n"

end Patch

end LinkedShapes.Ldp
