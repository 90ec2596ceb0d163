import LinkedShapes.Proofs.Attempt

/-!
# What an input states

The members of an input give literals to the properties that their fields stand for: each value that
is not null gives one, in the datatype of the field. A new entity is stated by its class and by these
literals, and by nothing else.

## Main statements

* `mapM_eq_ok_iff`: the results of a function that was applied to every element of a list.
* `mem_literalsOf`: the literals of one value.
* `mem_statedTriples`: the triples that an input states are those of the literals that it gives.
-/

namespace LinkedShapes.Schema

open Rdf Resolution

/-- An input gives a property a literal: a member of it, whose field stands for the property, has a
value that is not null and is written as the literal. -/
def InputType.Gives (type : InputType) (values : List (String × Json)) (property : String)
    (literal : Literal) : Prop :=
  ∃ name value field scalar, (name, value) ∈ values ∧ type.field? name = some field ∧
    field.property? = some property ∧ field.type.scalar? = some scalar ∧
    ∃ item ∈ writtenValues value,
      scalar.literal? item (field.datatype.getD scalar.defaultDatatype) = some literal

end LinkedShapes.Schema

namespace LinkedShapes.Resolution

open Rdf Ldp Schema

section Lists

variable {α β ε : Type} {f : α → Except ε β} {items : List α} {results : List β}

/-- A function that was applied to every element of a list had a result for each of them. -/
theorem mapM_eq_ok_iff : items.mapM f = .ok results ↔ items.map f = results.map .ok := by
  induction items generalizing results with
  | nil =>
    cases results with
    | nil => simp [pure, Except.pure]
    | cons result others => simp [pure, Except.pure]
  | cons item rest ih =>
    rw [List.mapM_cons, except_bind_eq_ok]
    constructor
    · rintro ⟨first, head, made⟩
      obtain ⟨others, tail, made⟩ := except_bind_eq_ok.1 made
      cases made
      rw [List.map_cons, List.map_cons, head, ih.1 tail]
    · intro same
      cases results with
      | nil => simp at same
      | cons first others =>
        obtain ⟨head, tail⟩ := List.cons.inj same
        exact ⟨first, head, except_bind_eq_ok.2 ⟨others, ih.2 tail, rfl⟩⟩

theorem mem_of_mapM_eq_ok (made : items.mapM f = .ok results) {result : β} :
    result ∈ results ↔ ∃ item ∈ items, f item = .ok result := by
  rw [← List.mem_map, mapM_eq_ok_iff.1 made]
  simp

theorem exists_of_mapM_eq_ok (made : items.mapM f = .ok results) {item : α} (h : item ∈ items) :
    ∃ result ∈ results, f item = .ok result := by
  have there : f item ∈ results.map .ok := mapM_eq_ok_iff.1 made ▸ List.mem_map.2 ⟨item, h, rfl⟩
  obtain ⟨result, found, same⟩ := List.mem_map.1 there
  exact ⟨result, found, same.symm⟩

end Lists

section Inputs

variable {subject : String} {type : InputType} {values : List (String × Json)}
  {field : InputField} {property : String} {value : Json} {literals : List Literal}
  {stated : List Triple}

theorem inputField_eq_ok_iff {name : String} :
    inputField type name = .ok field ↔ type.field? name = some field := by
  unfold inputField
  cases type.field? name <;> simp

theorem mem_literalsOf (made : literalsOf field property value = .ok literals) {literal : Literal} :
    literal ∈ literals ↔ ∃ scalar, field.type.scalar? = some scalar ∧
      ∃ item ∈ writtenValues value,
        scalar.literal? item (field.datatype.getD scalar.defaultDatatype) = some literal := by
  unfold literalsOf at made
  split at made
  · cases made
  · rename_i scalar isScalar
    simp only [mem_of_mapM_eq_ok made, isScalar, Option.some.injEq, exists_eq_left']
    refine exists_congr fun item => and_congr_right fun _ => ?_
    cases scalar.literal? item (field.datatype.getD scalar.defaultDatatype) <;> simp

/-- An input states the triples of the literals that it gives. -/
theorem mem_statedTriples (made : statedTriples subject type values = .ok stated)
    {triple : Triple} :
    triple ∈ stated ↔ ∃ property literal, type.Gives values property literal ∧
      triple = literalTriple subject property literal := by
  unfold statedTriples at made
  obtain ⟨lists, mapped, made⟩ := except_bind_eq_ok.1 made
  cases made
  rw [List.mem_flatten]
  constructor
  · rintro ⟨list, inLists, inList⟩
    obtain ⟨⟨name, value⟩, member, made⟩ := (mem_of_mapM_eq_ok mapped).1 inLists
    obtain ⟨field, found, made⟩ := except_bind_eq_ok.1 made
    split at made
    · cases made
      cases inList
    · rename_i property isProperty
      obtain ⟨literals, given, made⟩ := except_bind_eq_ok.1 made
      cases made
      obtain ⟨literal, inLiterals, rfl⟩ := List.mem_map.1 inList
      obtain ⟨scalar, isScalar, written⟩ := (mem_literalsOf given).1 inLiterals
      exact ⟨property, literal, ⟨name, value, field, scalar, member, inputField_eq_ok_iff.1 found,
        isProperty, isScalar, written⟩, rfl⟩
  · rintro ⟨property, literal, ⟨name, value, field, scalar, member, found, isProperty, isScalar,
      written⟩, rfl⟩
    obtain ⟨list, inLists, made⟩ := exists_of_mapM_eq_ok mapped member
    refine ⟨list, inLists, ?_⟩
    obtain ⟨again, foundAgain, made⟩ := except_bind_eq_ok.1 made
    obtain rfl : field = again :=
      Option.some.inj (found.symm.trans (inputField_eq_ok_iff.1 foundAgain))
    simp only [isProperty] at made
    obtain ⟨literals, given, made⟩ := except_bind_eq_ok.1 made
    cases made
    exact List.mem_map.2 ⟨literal, (mem_literalsOf given).2 ⟨scalar, isScalar, written⟩, rfl⟩

end Inputs

end LinkedShapes.Resolution
