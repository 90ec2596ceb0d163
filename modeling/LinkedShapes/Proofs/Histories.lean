import LinkedShapes.Proofs.Shapes
import Mathlib.Data.List.Forall2
import Mathlib.Data.List.Nodup
import Mathlib.Data.List.Perm.Basic

/-!
# Histories of a generation

A generation is asked for entity types, for input types and for whole schemas, by any names and in any
order, and it can be started again on the types that it remembers. What it remembers depends on what was
asked before; what it answers does not, but for the order of the input types of a schema. The invariant
is that the remembered types are those that would be made (`Generator.Sound`), and that only names which
every schema of the shapes needs are listed, each once (`Generator.Kept`).

## Main statements

* `GenerationCall.exists_answer`: a call has one answer, whatever is remembered, and keeps the invariant.
* `Generator.Kept.exists_definition`: whatever is remembered, the schema of the shapes is made.
* `Generator.Kept.answers_alike`: each call of a history is answered as it is on any other generator.
* `history_answered_afresh`: each call of a history is answered as it is at first.
-/

namespace LinkedShapes.Schema

open Rdf

/-! ### Calls and answers -/

/-- What a generation can be asked for. -/
inductive GenerationCall where
  /-- The entity type of a name. -/
  | object (name : String)
  /-- The input of the creation of the entity of a name. -/
  | create (entity : String)
  /-- The input of the update of the entity of a name. -/
  | update (entity : String)
  /-- The whole schema. -/
  | definition
  /-- To start again on the types that are remembered. -/
  | restart

/-- What a generation answers. -/
inductive Answer where
  /-- An entity type. -/
  | object (type : ObjectType)
  /-- An input type. -/
  | input (type : InputType)
  /-- A whole schema. -/
  | definition (definition : Definition)
  /-- The generation was started again. -/
  | restarted

/-- The step that answers a call. -/
def GenerationCall.step : GenerationCall → Generation Answer
  | .object name => do return .object (← Generation.object name)
  | .create entity => do return .input (← Generation.create entity)
  | .update entity => do return .input (← Generation.update entity)
  | .definition => do return .definition (← Generation.definition)
  | .restart => do
    modify Generator.restart
    return .restarted

/-- The answers of calls one after another. -/
def answers (generator : Generator) : List GenerationCall → List (Except SchemaError Answer)
  | [] => []
  | call :: rest =>
    (call.step.runOn generator).1 :: answers (call.step.runOn generator).2 rest

/-- The generator after some calls. -/
def Generator.after (generator : Generator) (calls : List GenerationCall) : Generator :=
  calls.foldl (fun generator call => (call.step.runOn generator).2) generator

/-- Answers are alike if they are the same, or schemas whose input types are in another order. -/
inductive Alike : Except SchemaError Answer → Except SchemaError Answer → Prop where
  /-- An answer and itself. -/
  | same (answer : Except SchemaError Answer) : Alike answer answer
  /-- Two schemas with the same object types, and the same input types in any order. -/
  | reordered {first second : Definition} (objects : first.objects = second.objects)
      (inputs : first.inputs.Perm second.inputs) :
      Alike (.ok (.definition first)) (.ok (.definition second))

namespace Alike

variable {first second third : Except SchemaError Answer}

theorem symm (alike : Alike first second) : Alike second first := by
  cases alike with
  | same => exact .same _
  | reordered objects inputs => exact .reordered objects.symm inputs.symm

theorem trans (alike : Alike first second) (alike' : Alike second third) : Alike first third := by
  cases alike with
  | same => exact alike'
  | reordered objects inputs =>
    cases alike' with
    | same => exact .reordered objects inputs
    | reordered objects' inputs' =>
      exact .reordered (objects.trans objects') (inputs.trans inputs')

end Alike

/-! ### What is kept -/

section Kept

variable {index : ShapeIndex} {name : String} {type : ObjectType} {input other : InputType}
  {generator later : Generator} {names names' : List String}

theorem nodup_addNames {order : List String} (distinct : order.Nodup) :
    (addNames order names).Nodup := by
  induction names generalizing order with
  | nil => exact distinct
  | cons first rest ih =>
    rw [addNames, List.foldl_cons]
    refine ih ?_
    by_cases listed : first ∈ order
    · rwa [if_pos listed]
    · rw [if_neg listed]
      exact List.nodup_append.2 ⟨distinct, List.nodup_singleton _, by grind⟩

/-- Two generators remember the same input type under a name. -/
theorem Generator.Sound.input_eq (sound : generator.Sound index) (sound' : later.Sound index)
    (known : generator.input? name = some input) (known' : later.input? name = some other) :
    input = other := by
  obtain ⟨entity, found, ⟨rfl, rfl⟩ | ⟨rfl, rfl⟩⟩ := sound.inputs name input known
  · exact (sound'.createInput found known').symm
  · exact (sound'.updateInput found known').symm

/-- Under the same names in any order, two generators have the same input types. -/
theorem Generator.Sound.perm_filterMap (sound : generator.Sound index)
    (sound' : later.Sound index) (perm : names.Perm names')
    (there : ∀ name ∈ names, (generator.input? name).isSome)
    (there' : ∀ name ∈ names', (later.input? name).isSome) :
    (names.filterMap generator.input?).Perm (names'.filterMap later.input?) := by
  have same : names'.filterMap generator.input? = names'.filterMap later.input? := by
    refine List.filterMap_congr fun name mem => ?_
    obtain ⟨input, known⟩ := Option.isSome_iff_exists.1 (there name (perm.mem_iff.2 mem))
    obtain ⟨other, known'⟩ := Option.isSome_iff_exists.1 (there' name mem)
    rw [known, known', sound.input_eq sound' known known']
  rw [← same]
  exact perm.filterMap _

theorem Generation.runOn_bind_of_error {α β : Type} {step : Generation α} {next : α → Generation β}
    {cause : SchemaError} (failed : step.runOn generator = (.error cause, later)) :
    (step >>= next).runOn generator = (.error cause, later) := by
  rw [Generation.runOn_bind, failed]

/-- A generator remembers what it would make, and lists names of input types that every schema of the
shapes needs, each once. -/
structure Generator.Kept (generator : Generator) (index : ShapeIndex) : Prop where
  /-- What is remembered is what would be made. -/
  sound : generator.Sound index
  /-- No name is listed twice. -/
  distinct : generator.inputOrder.Nodup
  /-- Only what is needed is listed. -/
  needed : ∀ name ∈ generator.inputOrder, name ∈ schemaNeeds index

namespace Generator.Kept

/-- At first nothing is remembered or listed. -/
theorem ofIndex (index : ShapeIndex) : (Generator.ofIndex index).Kept index :=
  ⟨.ofIndex index, List.nodup_nil, nofun⟩

/-- What is remembered is kept when a generation is started again. -/
theorem restart (kept : generator.Kept index) : generator.restart.Kept index :=
  ⟨⟨kept.sound.index, kept.sound.objects, kept.sound.inputs⟩, List.nodup_nil, nofun⟩

theorem addNames (kept : generator.Kept index) (sound : later.Sound index)
    (order : later.inputOrder = Schema.addNames generator.inputOrder names)
    (needed : ∀ name ∈ names, name ∈ schemaNeeds index) : later.Kept index := by
  refine ⟨sound, order ▸ nodup_addNames kept.distinct, fun name listed => ?_⟩
  rw [order, mem_addNames] at listed
  exact listed.elim (kept.needed name) (needed name)

/-- The answer of a step that gives a result and needs nothing that a schema does not need. -/
theorem alike_of_gives {α : Type} {step : Generation α} {result : α} {makes : List String}
    (kept : generator.Kept index) (wrap : α → Answer) (gives : step.Gives index result names makes)
    (needed : ∀ name ∈ names, name ∈ schemaNeeds index) :
    Alike ((step >>= fun a => pure (wrap a)).runOn generator).1 (.ok (wrap result)) ∧
      ((step >>= fun a => pure (wrap a)).runOn generator).2.Kept index := by
  obtain ⟨after, ran, sound, order, -⟩ := gives generator kept.sound
  rw [Generation.runOn_bind_of_ok ran]
  exact ⟨.same _, kept.addNames sound order needed⟩

/-- The answer of a step that fails and leaves what is remembered as it is. -/
theorem alike_of_error {α : Type} {step : Generation α} {cause : SchemaError}
    (kept : generator.Kept index) (wrap : α → Answer)
    (failed : step.runOn generator = (.error cause, generator)) :
    Alike ((step >>= fun a => pure (wrap a)).runOn generator).1 (.error cause) ∧
      ((step >>= fun a => pure (wrap a)).runOn generator).2.Kept index := by
  rw [Generation.runOn_bind_of_error failed]
  exact ⟨.same _, kept⟩

/-- Whatever is remembered, the schema of the shapes is made, with its input types in any order. -/
theorem exists_definition (closed : Closed index) (kept : generator.Kept index)
    {fresh : Definition} (generated : Definition.ofIndex index = .ok fresh) :
    ∃ definition after, Generation.definition.runOn generator = (.ok definition, after) ∧
      after.Kept index ∧ definition.objects = fresh.objects ∧
      definition.inputs.Perm fresh.inputs := by
  obtain ⟨after, made, sound, order, makes⟩ :=
    Generation.exists_runOn_definition closed kept.sound
  obtain ⟨first, made', sound', order', makes'⟩ :=
    Generation.exists_runOn_definition closed (.ofIndex index)
  obtain rfl := Except.ok.inj ((congrArg Prod.fst made').symm.trans generated)
  have keeps : after.Kept index := kept.addNames sound order fun _ => id
  have keeps' : first.Kept index := (ofIndex index).addNames sound' order' fun _ => id
  have all : ∀ name ∈ schemaNeeds index, name ∈ after.inputOrder ∧ name ∈ first.inputOrder := by
    intro name need
    rw [order, order', mem_addNames, mem_addNames]
    exact ⟨Or.inr need, Or.inr need⟩
  have perm : after.inputOrder.Perm first.inputOrder :=
    (List.perm_ext_iff_of_nodup keeps.distinct keeps'.distinct).2 fun name =>
      ⟨fun listed => (all name (keeps.needed name listed)).2,
        fun listed => (all name (keeps'.needed name listed)).1⟩
  exact ⟨_, after, made, keeps, rfl, sound.perm_filterMap sound' perm
    (fun name listed => makes name (keeps.needed name listed))
    fun name listed => makes' name (keeps'.needed name listed)⟩

end Generator.Kept

/-! ### Names without a shape -/

/-- There is no entity type of a name without a shape, and nothing is remembered of it. -/
theorem Generation.runOn_object_of_missing (sound : generator.Sound index)
    (missing : entityNamed? index name = none) :
    (Generation.object name).runOn generator = (.error (.unknownType name), generator) := by
  have unknown : generator.object? name = none := by
    cases known : generator.object? name with
    | none => rfl
    | some type =>
      rw [sound.objects name type known] at missing
      cases missing
  rw [Generation.runOn_object, unknown, sound.index, Option.map_eq_none_iff.1 missing]

/-! ### One call -/

/-- The input of the creation of an entity is needed. -/
theorem createInputName_mem_schemaNeeds (found : entityNamed? index name = some type) :
    createInputName name ∈ schemaNeeds index := by
  obtain rfl := name_of_entityNamed? found
  exact List.mem_flatMap.2 ⟨type, mem_entitiesOf.2 found, List.mem_cons_self⟩

/-- Nothing of a name without a shape is made. -/
theorem Generation.runOn_bind_object_of_missing {α : Type} {next : ObjectType → Generation α}
    (sound : generator.Sound index) (missing : entityNamed? index name = none) :
    (Generation.object name >>= next).runOn generator = (.error (.unknownType name), generator) :=
  Generation.runOn_bind_of_error (Generation.runOn_object_of_missing sound missing)

/-- A call has one answer, whatever is remembered, and what is kept stays so. -/
theorem GenerationCall.exists_answer (closed : Closed index) (call : GenerationCall) :
    ∃ answer, ∀ generator : Generator, generator.Kept index →
      Alike (call.step.runOn generator).1 answer ∧ (call.step.runOn generator).2.Kept index := by
  cases call with
  | object name =>
    cases found : entityNamed? index name with
    | none =>
      exact ⟨.error (.unknownType name), fun generator kept =>
        kept.alike_of_error .object (Generation.runOn_object_of_missing kept.sound found)⟩
    | some type =>
      exact ⟨.ok (.object type), fun generator kept =>
        kept.alike_of_gives .object (Generation.gives_object found) (List.forall_mem_nil _)⟩
  | create entity =>
    cases found : entityNamed? index entity with
    | none =>
      exact ⟨.error (.unknownType entity), fun generator kept =>
        kept.alike_of_error .input (Generation.runOn_bind_object_of_missing kept.sound found)⟩
    | some type =>
      refine ⟨.ok (.input (createInputOf index type)), fun generator kept =>
        kept.alike_of_gives .input (Generation.gives_create found) fun name mem => ?_⟩
      obtain rfl := List.mem_singleton.1 mem
      exact createInputName_mem_schemaNeeds found
  | update entity =>
    cases found : entityNamed? index entity with
    | none =>
      exact ⟨.error (.unknownType entity), fun generator kept =>
        kept.alike_of_error .input (Generation.runOn_bind_object_of_missing kept.sound found)⟩
    | some type =>
      exact ⟨.ok (.input (updateInputOf index type)), fun generator kept =>
        kept.alike_of_gives .input (Generation.gives_update found) (List.forall_mem_nil _)⟩
  | definition =>
    obtain ⟨fresh, generated, -⟩ := Definition.exists_ofIndex closed
    refine ⟨.ok (.definition fresh), fun generator kept => ?_⟩
    obtain ⟨definition, after, made, keeps, objects, inputs⟩ :=
      kept.exists_definition closed generated
    have answered : GenerationCall.definition.step.runOn generator =
        (.ok (.definition definition), after) := Generation.runOn_bind_of_ok made
    rw [answered]
    exact ⟨.reordered objects inputs, keeps⟩
  | restart => exact ⟨.ok .restarted, fun generator kept => ⟨.same _, kept.restart⟩⟩

/-- Whatever was asked before, what is kept stays so. -/
theorem Generator.Kept.after (closed : Closed index) (kept : generator.Kept index)
    (calls : List GenerationCall) : (generator.after calls).Kept index := by
  induction calls generalizing generator with
  | nil => exact kept
  | cons call rest ih =>
    obtain ⟨answer, always⟩ := call.exists_answer closed
    exact ih (always generator kept).2

/-- Each call of a history is answered as it is on another generator of the same shapes. -/
theorem Generator.Kept.answers_alike (closed : Closed index) (kept : generator.Kept index)
    (kept' : later.Kept index) (calls : List GenerationCall) :
    List.Forall₂ Alike (answers generator calls)
      (calls.map fun call => (call.step.runOn later).1) := by
  induction calls generalizing generator with
  | nil => exact .nil
  | cons call rest ih =>
    obtain ⟨answer, always⟩ := call.exists_answer closed
    obtain ⟨alike, keeps⟩ := always generator kept
    exact .cons (alike.trans (always later kept').1.symm) (ih keeps)

end Kept

/-- The memory of a generation is not seen in its answers: in every history of calls, each one is answered
as it is answered first of all, but for the order of the input types of a schema. -/
theorem history_answered_afresh (triples : List Triple) :
    ∃ index, ShapeIndex.ofTriples triples = .ok index ∧ ∀ calls : List GenerationCall,
      List.Forall₂ Alike (answers (.ofIndex index) calls)
        (calls.map fun call => (call.step.runOn (.ofIndex index)).1) := by
  have made := ShapeIndex.ofTriples_eq triples
  have kept := Generator.Kept.ofIndex
  exact ⟨_, made, (kept _).answers_alike (ShapeIndex.closed_of_ofTriples made) (kept _)⟩

end LinkedShapes.Schema
