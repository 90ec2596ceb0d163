import LinkedShapes.Proofs.Stated

/-!
# The patch of an update

Each member of the input of an update adds to one patch: the values that the property of its field has
are deleted, and the literals that it gives are inserted. No member looks at what the members before it
added, so that members may be for one property, and neither the patch nor whether there is one depends
on the order of the members.

## Main statements

* `updateMember_eq_ok_iff`: what a member adds to the patch.
* `mem_deletes_updatePatch`: the patch deletes the values of the properties that the input names.
* `mem_inserts_updatePatch`: it inserts the literals that the input gives.
* `exists_updatePatch_iff`: there is a patch if each member alone has one.
-/

namespace LinkedShapes.Ldp.Patch

open Rdf

variable {patch : Patch} {triple : Triple} {triples : List Triple}

theorem deletes_insert : (patch.insert triple).deletes = patch.deletes := rfl

theorem deletes_insertAll : (patch.insertAll triples).deletes = patch.deletes := by
  induction triples generalizing patch with
  | nil => rfl
  | cons t ts ih => exact ih

theorem inserts_deleteAll : (patch.deleteAll triples).inserts = patch.inserts := by
  induction triples generalizing patch with
  | nil => rfl
  | cons t ts ih => exact ih

theorem mem_deletes_deleteAll :
    triple ∈ (patch.deleteAll triples).deletes ↔ triple ∈ patch.deletes ∨ triple ∈ triples := by
  induction triples generalizing patch with
  | nil => simp [deleteAll]
  | cons t ts ih =>
    have : patch.deleteAll (t :: ts) = (patch.delete t).deleteAll ts := rfl
    rw [this, ih, mem_deletes_delete, List.mem_cons, or_assoc]

theorem mem_inserts_insertAll :
    triple ∈ (patch.insertAll triples).inserts ↔ triple ∈ patch.inserts ∨ triple ∈ triples := by
  induction triples generalizing patch with
  | nil => simp [insertAll]
  | cons t ts ih =>
    have : patch.insertAll (t :: ts) = (patch.insert t).insertAll ts := rfl
    rw [this, ih, mem_inserts_insert, List.mem_cons, or_assoc]

theorem isEmpty_iff : patch.isEmpty = true ↔ patch.inserts = [] ∧ patch.deletes = [] := by
  simp [isEmpty]

theorem mem_apply {graph : Graph} :
    triple ∈ patch.apply graph ↔
      (triple ∈ graph ∧ triple ∉ patch.deletes) ∨ triple ∈ patch.inserts :=
  Graph.mem_patch

end LinkedShapes.Ldp.Patch

namespace LinkedShapes.Schema

open Rdf Resolution

/-- An input names a property: a member of it is for a field that stands for the property. -/
def InputType.Names (type : InputType) (values : List (String × Json)) (property : String) : Prop :=
  ∃ name value field, (name, value) ∈ values ∧ type.field? name = some field ∧
    field.property? = some property

section Members

variable {type : InputType} {member : String × Json} {values others : List (String × Json)}
  {property : String} {literal : Literal}

/-- What is given is given to a property that is named. -/
theorem InputType.Gives.names (given : type.Gives values property literal) :
    type.Names values property := by
  obtain ⟨name, value, field, _, there, found, stands, -⟩ := given
  exact ⟨name, value, field, there, found, stands⟩

theorem InputType.names_cons_iff (values : List (String × Json)) :
    type.Names (member :: values) property ↔
      type.Names [member] property ∨ type.Names values property := by
  simp only [Names, List.mem_cons, List.not_mem_nil, or_false, or_and_right, exists_or]

theorem InputType.gives_cons_iff (values : List (String × Json)) :
    type.Gives (member :: values) property literal ↔
      type.Gives [member] property literal ∨ type.Gives values property literal := by
  simp only [Gives, List.mem_cons, List.not_mem_nil, or_false, or_and_right, exists_or]

theorem InputType.names_congr (perm : values.Perm others) :
    type.Names values property ↔ type.Names others property := by
  simp only [Names, perm.mem_iff]

theorem InputType.gives_congr (perm : values.Perm others) :
    type.Gives values property literal ↔ type.Gives others property literal := by
  simp only [Gives, perm.mem_iff]

end Members

end LinkedShapes.Schema

namespace LinkedShapes.Resolution

open Rdf Ldp Schema

variable {entity : ObjectType} {type : InputType} {subject : String} {graph : Graph}
  {before patch : Patch} {member : String × Json} {values others : List (String × Json)}

/-! ### One member -/

/-- A member for a field that stands for a property adds to the patch, and any other one does not; a null
is refused where the entity must have a value. -/
theorem updateMember_eq_ok_iff {name : String} {value : Json} :
    updateMember entity type subject graph before (name, value) = .ok patch ↔
      ∃ field, type.field? name = some field ∧
        match field.property? with
        | none => before = patch
        | some property =>
          (value.isNull && (entity.field? name).any (·.type.nonNull)) = false ∧
            ∃ literals, literalsOf field property value = .ok literals ∧
              (before.deleteAll (graph.values (.iri subject) property)).insertAll
                (literals.map (literalTriple subject property)) = patch := by
  simp only [updateMember]
  rw [except_bind_eq_ok]
  refine exists_congr fun field => and_congr inputField_eq_ok_iff ?_
  cases field.property? with
  | none => simp [pure, Except.pure]
  | some property =>
    cases refused : value.isNull && (entity.field? name).any (·.type.nonNull) with
    | true => simp [bind, Except.bind, throw, throwThe, MonadExceptOf.throw]
    | false =>
      simp only [Bool.false_eq_true, if_false, true_and]
      refine except_bind_eq_ok.trans (exists_congr fun literals => and_congr_right fun _ => ?_)
      simp [pure, Except.pure]

/-- Whether a member is accepted does not depend on the patch that it adds to. -/
theorem exists_updateMember_of_eq_ok
    (made : updateMember entity type subject graph before member = .ok patch) (other : Patch) :
    ∃ patch, updateMember entity type subject graph other member = .ok patch := by
  obtain ⟨name, value⟩ := member
  simp only [updateMember_eq_ok_iff] at made ⊢
  obtain ⟨field, found, made⟩ := made
  cases stands : field.property? with
  | none => exact ⟨other, field, found, by simp [stands]⟩
  | some property =>
    simp only [stands] at made
    obtain ⟨accepted, literals, given, -⟩ := made
    exact ⟨_, field, found, by
      simp only [stands]
      exact ⟨accepted, literals, given, rfl⟩⟩

/-- A member adds the values of the property that it names to what is deleted. -/
theorem mem_deletes_updateMember
    (made : updateMember entity type subject graph before member = .ok patch) {triple : Triple} :
    triple ∈ patch.deletes ↔ triple ∈ before.deletes ∨
      (triple ∈ graph ∧ triple.subject = .iri subject ∧ type.Names [member] triple.predicate) := by
  obtain ⟨name, value⟩ := member
  obtain ⟨field, found, made⟩ := updateMember_eq_ok_iff.1 made
  have named {property : String} : type.Names [(name, value)] property ↔
      field.property? = some property := by
    simp [InputType.Names, found]
  rw [named]
  cases stands : field.property? with
  | none =>
    simp only [stands] at made
    simp [made]
  | some property =>
    simp only [stands] at made
    obtain ⟨-, literals, -, rfl⟩ := made
    rw [Patch.deletes_insertAll, Patch.mem_deletes_deleteAll, Graph.mem_values, Option.some.injEq,
      eq_comm (a := property)]

/-- A member gives the literals of its value to the property of its field. -/
theorem gives_singleton_iff {name property other : String} {value : Json} {field : InputField}
    {literals : List Literal} {literal : Literal} (found : type.field? name = some field)
    (stands : field.property? = some property)
    (given : literalsOf field property value = .ok literals) :
    type.Gives [(name, value)] other literal ↔ property = other ∧ literal ∈ literals := by
  rw [mem_literalsOf given]
  constructor
  · rintro ⟨_, _, _, scalar, there, found', stands', isScalar, written⟩
    cases List.mem_singleton.1 there
    cases found.symm.trans found'
    cases stands.symm.trans stands'
    exact ⟨rfl, scalar, isScalar, written⟩
  · rintro ⟨rfl, scalar, isScalar, written⟩
    exact ⟨name, value, field, scalar, List.mem_singleton_self _, found, stands, isScalar, written⟩

/-- A member adds the literals that it gives to what is inserted. -/
theorem mem_inserts_updateMember
    (made : updateMember entity type subject graph before member = .ok patch) {triple : Triple} :
    triple ∈ patch.inserts ↔ triple ∈ before.inserts ∨
      ∃ property literal, type.Gives [member] property literal ∧
        triple = literalTriple subject property literal := by
  obtain ⟨name, value⟩ := member
  obtain ⟨field, found, made⟩ := updateMember_eq_ok_iff.1 made
  cases stands : field.property? with
  | none =>
    simp only [stands] at made
    simp [made, InputType.Gives, found, stands]
  | some property =>
    simp only [stands] at made
    obtain ⟨-, literals, given, rfl⟩ := made
    rw [Patch.mem_inserts_insertAll, Patch.inserts_deleteAll]
    rw [List.mem_map]
    refine or_congr_right ⟨?_, ?_⟩
    · rintro ⟨literal, written, rfl⟩
      exact ⟨property, literal, (gives_singleton_iff found stands given).2 ⟨rfl, written⟩, rfl⟩
    · rintro ⟨other, literal, gives, rfl⟩
      obtain ⟨rfl, written⟩ := (gives_singleton_iff found stands given).1 gives
      exact ⟨literal, written, rfl⟩

/-! ### All members -/

theorem mem_deletes_foldlM_updateMember
    (made : values.foldlM (updateMember entity type subject graph) before = .ok patch)
    {triple : Triple} :
    triple ∈ patch.deletes ↔ triple ∈ before.deletes ∨
      (triple ∈ graph ∧ triple.subject = .iri subject ∧ type.Names values triple.predicate) := by
  induction values generalizing before with
  | nil =>
    cases made
    simp [InputType.Names]
  | cons member rest ih =>
    rw [List.foldlM_cons] at made
    obtain ⟨between, first, made⟩ := except_bind_eq_ok.1 made
    rw [ih made, mem_deletes_updateMember first, InputType.names_cons_iff rest, or_assoc,
      and_or_left, and_or_left]

theorem mem_inserts_foldlM_updateMember
    (made : values.foldlM (updateMember entity type subject graph) before = .ok patch)
    {triple : Triple} :
    triple ∈ patch.inserts ↔ triple ∈ before.inserts ∨
      ∃ property literal, type.Gives values property literal ∧
        triple = literalTriple subject property literal := by
  induction values generalizing before with
  | nil =>
    cases made
    simp [InputType.Gives]
  | cons member rest ih =>
    rw [List.foldlM_cons] at made
    obtain ⟨between, first, made⟩ := except_bind_eq_ok.1 made
    rw [ih made, mem_inserts_updateMember first, or_assoc]
    simp only [InputType.gives_cons_iff rest, or_and_right, exists_or]

theorem exists_foldlM_updateMember_iff :
    (∃ patch, values.foldlM (updateMember entity type subject graph) before = .ok patch) ↔
      ∀ member ∈ values, ∃ patch,
        updateMember entity type subject graph Patch.empty member = .ok patch := by
  induction values generalizing before with
  | nil => simp [pure, Except.pure]
  | cons member rest ih =>
    simp only [List.foldlM_cons, except_bind_eq_ok, List.forall_mem_cons]
    constructor
    · rintro ⟨patch, between, first, others⟩
      exact ⟨exists_updateMember_of_eq_ok first _, ih.1 ⟨patch, others⟩⟩
    · rintro ⟨⟨_, first⟩, others⟩
      obtain ⟨between, first⟩ := exists_updateMember_of_eq_ok first before
      obtain ⟨patch, made⟩ := ih.2 others
      exact ⟨patch, between, first, made⟩

/-- The patch of an update deletes the values that the properties named by the input have in the graph. -/
theorem mem_deletes_updatePatch
    (made : updatePatch entity type subject graph values = .ok patch) {triple : Triple} :
    triple ∈ patch.deletes ↔
      triple ∈ graph ∧ triple.subject = .iri subject ∧ type.Names values triple.predicate :=
  (mem_deletes_foldlM_updateMember made).trans (or_iff_right List.not_mem_nil)

/-- The patch of an update inserts the literals that the input gives. -/
theorem mem_inserts_updatePatch
    (made : updatePatch entity type subject graph values = .ok patch) {triple : Triple} :
    triple ∈ patch.inserts ↔ ∃ property literal, type.Gives values property literal ∧
      triple = literalTriple subject property literal :=
  (mem_inserts_foldlM_updateMember made).trans (or_iff_right List.not_mem_nil)

/-- The patch of an update deletes triples of the graph only. -/
theorem updatePatch_deletes (made : updatePatch entity type subject graph values = .ok patch) :
    ∀ t ∈ patch.deletes, t ∈ graph :=
  fun _ h => ((mem_deletes_updatePatch made).1 h).1

/-- An update has a patch if each member of its input alone has one. -/
theorem exists_updatePatch_iff :
    (∃ patch, updatePatch entity type subject graph values = .ok patch) ↔
      ∀ member ∈ values, ∃ patch,
        updateMember entity type subject graph Patch.empty member = .ok patch :=
  exists_foldlM_updateMember_iff

end LinkedShapes.Resolution
