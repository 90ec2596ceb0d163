import LinkedShapes.GraphQL.Lexis
import LinkedShapes.Proofs.FieldNames

/-!
# Legal names

The types and the fields of a schema are named after IRIs and literals, which may have any characters. What
is not a letter, a digit or an underscore becomes an underscore, so that every name is a name of the query
language. It may start with two underscores, though, and such names are kept for the description of types: a
text that starts with two characters other than letters and digits becomes one. Nothing that is put before or
after a name makes it one or hides one, so that the names of the entities and those of their fields decide.

## Main statements

* `isReserved_sanitizedName_iff`: which texts become names that are reserved.
* `TypeSystem.error_of_isReserved`: a schema with a reserved name makes no type system.
* `names_legal_iff`: which names of a schema are names, and when none of them is reserved.
-/

namespace LinkedShapes.GraphQL

open Schema (Definition ObjectType Field)

/-- The text is a name: a letter or an underscore, and then letters, digits and underscores. -/
def IsName (name : String) : Prop :=
  ∃ first rest, name.toList = first :: rest ∧ isNameStart first = true ∧
    ∀ c ∈ rest, isNameChar c = true

instance (name : String) : Decidable (IsName name) :=
  decidable_of_iff
    (name.toList.head?.any isNameStart = true ∧ name.toList.tail.all isNameChar = true) <| by
    unfold IsName
    cases name.toList <;> simp

/-! ### Names that are put together -/

section Names

variable {name suffix verb : String} {c : Char}

theorem isNameChar_of_isNameStart (starts : isNameStart c = true) : isNameChar c = true := by
  simp [isNameChar, starts]

theorem IsName.isNameChar (isName : IsName name) : ∀ c ∈ name.toList, isNameChar c = true := by
  obtain ⟨first, rest, chars, starts, goesOn⟩ := isName
  intro c mem
  rw [chars] at mem
  rcases List.mem_cons.1 mem with rfl | mem
  · exact isNameChar_of_isNameStart starts
  · exact goesOn c mem

theorem IsName.append (isName : IsName name) (isName' : IsName suffix) : IsName (name ++ suffix) := by
  obtain ⟨first, rest, chars, starts, goesOn⟩ := isName
  refine ⟨first, rest ++ suffix.toList, by simp [chars], starts, fun c mem => ?_⟩
  rcases List.mem_append.1 mem with mem | mem
  · exact goesOn c mem
  · exact isName'.isNameChar c mem

theorem ascii_of_isNameStart (starts : isNameStart c = true) : c.toNat < 128 := by
  refine Text.ascii_of_isNameChar ?_
  simp only [isNameStart, Bool.or_eq_true] at starts
  simp only [Shape.isNameChar, Char.isAlphanum, Bool.or_eq_true]
  exact starts.imp_left Or.inl

/-- The first character of a name can start a name in either case, and is an underscore in neither unless it is
one. -/
theorem cases_of_isNameStart (starts : isNameStart c = true) :
    (isNameStart c.toUpper = true ∧ (c.toUpper = '_' ↔ c = '_')) ∧
      isNameStart c.toLower = true ∧ (c.toLower = '_' ↔ c = '_') := by
  have ascii : ∀ n : Fin 128, isNameStart (Char.ofNat n) = true →
      (isNameStart (Char.ofNat n).toUpper = true ∧
          ((Char.ofNat n).toUpper = '_' ↔ Char.ofNat n = '_')) ∧
        isNameStart (Char.ofNat n).toLower = true ∧
          ((Char.ofNat n).toLower = '_' ↔ Char.ofNat n = '_') := by
    decide
  have cases := ascii ⟨c.toNat, ascii_of_isNameStart starts⟩
  simp only [Char.ofNat_toNat] at cases
  exact cases starts

theorem isReserved_iff :
    isReserved name = true ↔ ∃ rest, name.toList = '_' :: '_' :: rest := by
  rw [isReserved, List.isPrefixOf_iff_prefix]
  exact ⟨fun ⟨rest, same⟩ => ⟨rest, same.symm⟩, fun ⟨rest, same⟩ => ⟨rest, same.symm⟩⟩

/-- The first letter of a name can be put in another case. -/
theorem legal_of_toList {first other : Char} {rest : List Char} {changed : String}
    (chars : name.toList = first :: rest) (chars' : changed.toList = other :: rest)
    (isName : IsName name) (starts : isNameStart other = true) (same : other = '_' ↔ first = '_') :
    IsName changed ∧ isReserved changed = isReserved name := by
  obtain ⟨c, cs, split, -, goesOn⟩ := isName
  obtain ⟨rfl, rfl⟩ := List.cons.inj (chars.symm.trans split)
  refine ⟨⟨other, rest, chars', starts, goesOn⟩, Bool.eq_iff_iff.2 ?_⟩
  simp [isReserved_iff, chars, chars', same]

theorem legal_capitalize (isName : IsName name) :
    IsName (Text.capitalize name) ∧ isReserved (Text.capitalize name) = isReserved name := by
  obtain ⟨first, rest, chars, starts, -⟩ := id isName
  obtain ⟨⟨starts, same⟩, -⟩ := cases_of_isNameStart starts
  exact legal_of_toList chars (by simp [Text.capitalize, chars]) isName starts same

theorem legal_decapitalize (isName : IsName name) :
    IsName (Text.decapitalize name) ∧ isReserved (Text.decapitalize name) = isReserved name := by
  obtain ⟨first, rest, chars, starts, -⟩ := id isName
  have ascii := ascii_of_isNameStart starts
  obtain ⟨-, starts, same⟩ := cases_of_isNameStart starts
  exact legal_of_toList chars
    (by simp [Text.decapitalize, chars, Text.lowerChars_of_ascii ascii]) isName starts same

/-- What is put after a name makes no difference if it starts with a letter. -/
theorem isReserved_append (letter : suffix.toList.head? ≠ some '_') :
    isReserved (name ++ suffix) = isReserved name := by
  refine Bool.eq_iff_iff.2 ?_
  rw [isReserved_iff, isReserved_iff, String.toList_append]
  cases name.toList with
  | nil =>
    refine iff_of_false ?_ nofun
    rintro ⟨rest, chars⟩
    have after : suffix.toList = '_' :: '_' :: rest := chars
    exact letter (by rw [after, List.head?_cons])
  | cons first more =>
    cases more with
    | nil =>
      refine iff_of_false ?_ nofun
      rintro ⟨rest, chars⟩
      have after : suffix.toList = '_' :: rest := (List.cons.inj chars).2
      exact letter (by rw [after, List.head?_cons])
    | cons second more => simp

/-- What is put after a verb is not at the start. -/
theorem not_isReserved_append (letter : verb.toList.head?.any (· ≠ '_') = true) :
    isReserved (verb ++ name) = false := by
  refine Bool.eq_false_iff.2 fun reserved => ?_
  obtain ⟨rest, chars⟩ := isReserved_iff.1 reserved
  rw [String.toList_append] at chars
  cases start : verb.toList with
  | nil => simp [start] at letter
  | cons first more =>
    rw [start, List.cons_append] at chars
    simp [start, (List.cons.inj chars).1] at letter

end Names

/-! ### Sanitised names -/

section Sanitised

variable {text : List Char} {c : Char}

theorem isNameChar_eq (c : Char) : isNameChar c = Shape.isNameChar c := by
  simp only [isNameChar, isNameStart, Shape.isNameChar, Char.isAlphanum]
  cases c.isAlpha <;> cases c.isDigit <;> simp

theorem isNameStart_of_not_isDigit (named : Shape.isNameChar c = true) (noDigit : c.isDigit = false) :
    isNameStart c = true := by
  rw [← isNameChar_eq, isNameChar, noDigit, Bool.or_false] at named
  exact named

theorem isName_sanitize (text : List Char) : IsName (String.ofList (Shape.sanitize text)) := by
  have chars : ∀ c ∈ Shape.sanitize text, isNameChar c = true := by
    intro c mem
    rw [isNameChar_eq]
    exact Shape.isNameChar_of_mem_sanitize mem
  by_cases lacks : Shape.lacksStart (text.map Shape.nameChar) = true
  · rw [Shape.sanitize, if_pos lacks] at chars ⊢
    exact ⟨'_', text.map Shape.nameChar, String.toList_ofList, by decide,
      fun c mem => chars c (List.mem_cons_of_mem _ mem)⟩
  · rw [Shape.sanitize, if_neg lacks] at chars ⊢
    cases named : text.map Shape.nameChar with
    | nil => simp [named, Shape.lacksStart] at lacks
    | cons first rest =>
      rw [named] at chars lacks
      have noDigit : first.isDigit = false := by simpa [Shape.lacksStart] using lacks
      refine ⟨first, rest, String.toList_ofList, isNameStart_of_not_isDigit ?_ noDigit,
        fun c mem => chars c (List.mem_cons_of_mem _ mem)⟩
      rw [← isNameChar_eq]
      exact chars first List.mem_cons_self

theorem isName_sanitizedName (text : String) : IsName (Shape.sanitizedName text) :=
  isName_sanitize text.toList

theorem nameChar_eq_underscore_iff : Shape.nameChar c = '_' ↔ c.isAlphanum = false := by
  unfold Shape.nameChar Shape.isNameChar
  split
  · rename_i named
    constructor
    · rintro rfl
      rfl
    · intro notAlphanum
      simpa [notAlphanum] using named
  · rename_i unnamed
    simp_all

/-- A text becomes a reserved name if it starts with two characters that are neither letters nor digits. -/
theorem isReserved_sanitizedName_iff {text : String} :
    isReserved (Shape.sanitizedName text) = true ↔
      ∃ first second rest, text.toList = first :: second :: rest ∧
        first.isAlphanum = false ∧ second.isAlphanum = false := by
  have replaced : (∃ rest, text.toList.map Shape.nameChar = '_' :: '_' :: rest) ↔
      ∃ first second rest, text.toList = first :: second :: rest ∧
        first.isAlphanum = false ∧ second.isAlphanum = false := by
    simp only [← nameChar_eq_underscore_iff]
    cases text.toList with
    | nil => simp
    | cons first more =>
      cases more with
      | nil => simp
      | cons second rest => simp
  rw [isReserved_iff, Shape.sanitizedName, String.toList_ofList, ← replaced, Shape.sanitize]
  split
  · -- an underscore is put before a digit, or stands alone
    rename_i lacks
    refine iff_of_false ?_ ?_
    · rintro ⟨rest, chars⟩
      rw [(List.cons.inj chars).2] at lacks
      cases lacks
    · rintro ⟨rest, chars⟩
      rw [chars] at lacks
      cases lacks
  · exact Iff.rfl

end Sanitised

/-! ### Schemas that are refused -/

namespace TypeSystem

theorem lastOfName_of_nodup {α : Type} {name : α → String} {items : List α}
    (distinct : (items.map name).Nodup) : lastOfName name items = items := by
  induction items with
  | nil => rfl
  | cons item rest ih =>
    rw [List.map_cons, List.nodup_cons] at distinct
    obtain ⟨fresh, distinct⟩ := distinct
    have noLater : (rest.any fun later => name later = name item) = false := by
      rw [List.any_eq_false]
      intro later mem same
      exact fresh (List.mem_map.2 ⟨later, mem, of_decide_eq_true same⟩)
    rw [lastOfName, noLater, if_neg Bool.false_ne_true, ih distinct]

/-- No type with fields is left out if all types have different names. -/
theorem mem_objects_effective {definition : Definition} {type : ObjectType} {field : Field}
    (distinct : (definition.objects.map ObjectType.name ++
      definition.inputs.map Schema.InputType.name).Nodup)
    (mem : type ∈ definition.objects) (there : field ∈ type.fields) :
    type ∈ (effective definition).objects := by
  obtain ⟨objects, inputs, apart⟩ := List.nodup_append.1 distinct
  have filled : type.fields.isEmpty = false := by
    rw [List.isEmpty_eq_false_iff]
    exact List.ne_nil_of_mem there
  have others : definition.inputs.any (·.name = type.name) = false := by
    rw [List.any_eq_false]
    intro input inSchema same
    exact apart type.name (List.mem_map.2 ⟨type, mem, rfl⟩) input.name
      (List.mem_map.2 ⟨input, inSchema, rfl⟩) (of_decide_eq_true same).symm
  have kept := objects.sublist
    ((List.filter_sublist (p := fun type : ObjectType => !type.fields.isEmpty)).map ObjectType.name)
  rw [effective, lastOfName_of_nodup inputs, lastOfName_of_nodup kept]
  simp [mem, filled, others]

/-- A schema with a reserved field makes no type system if all its types have different names. -/
theorem error_of_isReserved {definition : Definition} {type : ObjectType} {field : Field}
    (distinct : (definition.objects.map ObjectType.name ++
      definition.inputs.map Schema.InputType.name).Nodup)
    (mem : type ∈ definition.objects) (there : field ∈ type.fields)
    (reserved : isReserved field.name = true) :
    ∃ cause, ofDefinition definition = .error cause := by
  have own : objectOf type ∈ (effective definition).objects.map objectOf ++
      (effective definition).inputs.map inputOf :=
    List.mem_append_left _ (List.mem_map.2 ⟨type, mem_objects_effective distinct mem there, rfl⟩)
  have refused (known : List NamedType) : admitsType known (objectOf type) = false := by
    have notAdmitted : (type.fields.map outputOf).all (admitsField known) = false := by
      rw [List.all_eq_false]
      refine ⟨outputOf field, List.mem_map.2 ⟨field, there, rfl⟩, ?_⟩
      simp [admitsField, outputOf, reserved]
    simp [admitsType, objectOf, notAdmitted]
  unfold ofDefinition
  split
  · exact ⟨_, rfl⟩
  · dsimp only
    split
    · rename_i accepted
      rw [Bool.and_eq_true, List.all_eq_true] at accepted
      have admitted := accepted.2 _ own
      rw [refused] at admitted
      cases admitted
    · exact ⟨_, rfl⟩

end TypeSystem

end LinkedShapes.GraphQL

namespace LinkedShapes.Schema

open Rdf
open GraphQL (IsName isReserved)
open Resolution (RelationChange mutatorField)

/-! ### The names of a schema -/

/-- The names that a schema gives. -/
inductive Definition.Names (definition : Definition) : String → Prop
  /-- The name of an object type. -/
  | object {type : ObjectType} (mem : type ∈ definition.objects) : definition.Names type.name
  /-- The name of a field of an object type. -/
  | field {type : ObjectType} {field : Field} (mem : type ∈ definition.objects)
    (there : field ∈ type.fields) : definition.Names field.name
  /-- The name of an argument of a field. -/
  | argument {type : ObjectType} {field : Field} {argument : Argument}
    (mem : type ∈ definition.objects) (there : field ∈ type.fields)
    (asked : argument ∈ field.arguments) : definition.Names argument.name
  /-- The name of an input type. -/
  | input {input : InputType} (mem : input ∈ definition.inputs) : definition.Names input.name
  /-- The name of a field of an input type. -/
  | inputField {input : InputType} {field : InputField} (mem : input ∈ definition.inputs)
    (there : field ∈ input.fields) : definition.Names field.name

/-- A name is legal, and is reserved only if one of some entities or of their fields is. -/
def LegalFrom (entities : List ObjectType) (name : String) : Prop :=
  IsName name ∧ (isReserved name = true → ∃ entity ∈ entities,
    isReserved entity.name = true ∨ ∃ field ∈ entity.fields, isReserved field.name = true)

namespace LegalFrom

variable {entities : List ObjectType} {entity : ObjectType} {field : Field} {name suffix verb : String}

theorem of_free (isName : IsName name) (free : isReserved name = false) : LegalFrom entities name :=
  ⟨isName, fun reserved => absurd (free.symm.trans reserved) Bool.false_ne_true⟩

theorem decapitalize (legal : LegalFrom entities name) :
    LegalFrom entities (Text.decapitalize name) := by
  obtain ⟨isName, same⟩ := GraphQL.legal_decapitalize legal.1
  exact ⟨isName, fun reserved => legal.2 (same ▸ reserved)⟩

theorem append (legal : LegalFrom entities name) (isName : IsName suffix)
    (letter : suffix.toList.head? ≠ some '_') : LegalFrom entities (name ++ suffix) :=
  ⟨legal.1.append isName, fun reserved => legal.2 (GraphQL.isReserved_append letter ▸ reserved)⟩

theorem after (isVerb : IsName verb) (letter : verb.toList.head?.any (· ≠ '_') = true)
    (isName : IsName name) : LegalFrom entities (verb ++ name) :=
  of_free (isVerb.append isName) (GraphQL.not_isReserved_append letter)

end LegalFrom

/-- The names of some entities and of their fields are names. -/
def Named (entities : List ObjectType) : Prop :=
  ∀ entity ∈ entities, IsName entity.name ∧ ∀ field ∈ entity.fields, IsName field.name

section Entities

variable {entities : List ObjectType} {entity : ObjectType} {field : Field} {index : ShapeIndex}

theorem Named.legalFrom_entity (named : Named entities) (mem : entity ∈ entities) :
    LegalFrom entities entity.name :=
  ⟨(named entity mem).1, fun reserved => ⟨entity, mem, Or.inl reserved⟩⟩

theorem Named.legalFrom_field (named : Named entities) (mem : entity ∈ entities)
    (there : field ∈ entity.fields) : LegalFrom entities field.name :=
  ⟨(named entity mem).2 field there, fun reserved => ⟨entity, mem, Or.inr ⟨field, there, reserved⟩⟩⟩

/-- The fields of the root of queries are named after the entities. -/
theorem Named.queryFields (named : Named entities) (mem : entity ∈ entities)
    (there : field ∈ Generation.queryFields entity) : LegalFrom entities field.name ∧
      ∀ argument ∈ field.arguments, argument.name = identifierField := by
  have lower := (named.legalFrom_entity mem).decapitalize
  simp only [Generation.queryFields, List.mem_cons, List.not_mem_nil, or_false] at there
  rcases there with rfl | rfl
  · exact ⟨lower, by simp⟩
  · exact ⟨lower.append (by decide) (by decide), by simp⟩

/-- The fields of the root of mutations too. -/
theorem Named.mutationFields (named : Named entities) (mem : entity ∈ entities)
    (there : field ∈ mutationFieldsOf entity) : LegalFrom entities field.name ∧
      ∀ argument ∈ field.arguments, argument.name = identifierField ∨ argument.name = inputArgument := by
  have isName := (named entity mem).1
  simp only [mutationFieldsOf, List.mem_cons, List.not_mem_nil, or_false] at there
  rcases there with rfl | rfl
  · exact ⟨.after (by decide) (by decide) isName, by simp [Generation.inputArgumentOf]⟩
  · exact ⟨.after (by decide) (by decide) isName, by simp [Generation.idArgument]⟩

/-- The fields of a mutator are named after the relations of its entity. -/
theorem Named.mutatorFields (named : Named entities) (mem : entity ∈ entities)
    (there : field ∈ mutatorFields index entity) : LegalFrom entities field.name ∧
      ∀ argument ∈ field.arguments, argument.name = identifierField ∨ argument.name = inputArgument := by
  rcases Resolution.mem_mutatorFields.1 there with
    rfl | updates | ⟨relation, related, -, change, -, rfl⟩
  · have legal : LegalFrom entities "delete" := .of_free (by decide) (by decide)
    exact ⟨legal, nofun⟩
  · have legal : LegalFrom entities "update" := .of_free (by decide) (by decide)
    rw [Resolution.eq_of_mem_updateFields updates]
    exact ⟨legal, by simp [Generation.inputArgumentOf]⟩
  · have isName := (GraphQL.legal_capitalize ((named entity mem).2 relation related)).1
    constructor
    · cases change <;> exact .after (by decide) (by decide) isName
    · cases change <;> simp [mutatorField, RelationChange.arguments, Generation.idArgument,
        Generation.inputArgumentOf]

/-- The fields of the inputs of an entity are named after its fields. -/
theorem Named.inputFields (named : Named entities) (mem : entity ∈ entities) {field : InputField}
    (there : field ∈ scalarInputs index entity) : LegalFrom entities field.name := by
  obtain ⟨own, inFields, rfl⟩ := List.mem_map.1 there
  exact named.legalFrom_field mem (List.mem_filter.1 inFields).1

end Entities

/-! ### Whole schemas -/

section Schemas

variable {triples : List Triple} {index : ShapeIndex} {definition : Definition} {name : String}

/-- The entities of shapes and their fields have names. -/
theorem named_entitiesOf (made : ShapeIndex.ofTriples triples = .ok index) :
    Named (entitiesOf index) := by
  intro entity mem
  obtain ⟨shape, named, rfl⟩ := Option.map_eq_some_iff.1 (mem_entitiesOf.1 mem)
  have inShapes : shape ∈ index.shapes := List.mem_of_find?_eq_some named
  constructor
  · obtain ⟨text, derived⟩ := ShapeIndex.exists_name_eq made inShapes
    have legal := GraphQL.legal_capitalize (GraphQL.isName_sanitize text)
    rw [← derived] at legal
    exact legal.1
  · intro field there
    rcases List.mem_cons.1 there with rfl | there
    · have identifier : IsName identifierField := by decide
      exact identifier
    · obtain ⟨property, stated, typeName, -, rfl, -⟩ := exists_property_of_mem_propertyFields there
      obtain ⟨text, derived⟩ := ShapeIndex.exists_sanitize_eq made inShapes stated
      have isName := GraphQL.isName_sanitize text
      rw [← derived] at isName
      exact isName

/-- The fields of the object types of a schema have legal names, and their arguments two names. -/
theorem Definition.IsOf.legalFrom_field (made : ShapeIndex.ofTriples triples = .ok index)
    (isOf : definition.IsOf index) {type : ObjectType} {field : Field}
    (mem : type ∈ definition.objects) (there : field ∈ type.fields) :
    LegalFrom (entitiesOf index) field.name ∧
      ∀ argument ∈ field.arguments, argument.name = identifierField ∨ argument.name = inputArgument := by
  have named := named_entitiesOf made
  rcases isOf.mem_objects_iff.1 mem with rfl | rfl | inSchema | ⟨entity, inSchema, rfl⟩
  · obtain ⟨entity, inSchema, there⟩ := List.mem_flatMap.1 there
    obtain ⟨legal, asked⟩ := named.queryFields inSchema there
    exact ⟨legal, fun argument mem => Or.inl (asked argument mem)⟩
  · obtain ⟨entity, inSchema, there⟩ := List.mem_flatMap.1 there
    exact named.mutationFields inSchema there
  · refine ⟨named.legalFrom_field inSchema there, ?_⟩
    obtain ⟨shape, -, rfl⟩ := List.mem_map.1 inSchema
    rcases List.mem_cons.1 there with rfl | there
    · nofun
    · obtain ⟨property, -, typeName, -, rfl, -⟩ := exists_property_of_mem_propertyFields there
      nofun
  · exact named.mutatorFields inSchema there

/-- The object types of a schema have legal names. -/
theorem Definition.IsOf.legalFrom_object (made : ShapeIndex.ofTriples triples = .ok index)
    (isOf : definition.IsOf index) {type : ObjectType} (mem : type ∈ definition.objects) :
    LegalFrom (entitiesOf index) type.name := by
  have named := named_entitiesOf made
  rcases isOf.mem_objects_iff.1 mem with rfl | rfl | inSchema | ⟨entity, inSchema, rfl⟩
  · have legal : LegalFrom (entitiesOf index) queryType := .of_free (by decide) (by decide)
    exact legal
  · have legal : LegalFrom (entitiesOf index) mutationType := .of_free (by decide) (by decide)
    exact legal
  · exact named.legalFrom_entity inSchema
  · exact (named.legalFrom_entity inSchema).append (by decide) (by decide)

/-- The input types of a schema and their fields have legal names. -/
theorem Definition.IsOf.legalFrom_input (made : ShapeIndex.ofTriples triples = .ok index)
    (isOf : definition.IsOf index) {input : InputType} (mem : input ∈ definition.inputs) :
    LegalFrom (entitiesOf index) input.name ∧
      ∀ field ∈ input.fields, LegalFrom (entitiesOf index) field.name := by
  have named := named_entitiesOf made
  obtain ⟨entity, inSchema, rfl | rfl⟩ := isOf.inputs input mem
  · have verb : LegalFrom (entitiesOf index) ("Create" ++ entity.name) :=
      .after (by decide) (by decide) (named entity inSchema).1
    refine ⟨verb.append (by decide) (by decide), fun field there => ?_⟩
    simp only [createInputOf, List.mem_append, List.mem_cons, List.not_mem_nil, or_false] at there
    rcases there with written | rfl | rfl
    · exact named.inputFields inSchema written
    · have legal : LegalFrom (entitiesOf index) identifierField := .of_free (by decide) (by decide)
      exact legal
    · have legal : LegalFrom (entitiesOf index) slugField := .of_free (by decide) (by decide)
      exact legal
  · have verb : LegalFrom (entitiesOf index) ("Update" ++ entity.name) :=
      .after (by decide) (by decide) (named entity inSchema).1
    refine ⟨verb.append (by decide) (by decide), fun field there => ?_⟩
    obtain ⟨written, inFields, rfl⟩ := List.mem_map.1 there
    have legal : LegalFrom (entitiesOf index) written.name := named.inputFields inSchema inFields
    exact legal

/-- Each name of a schema is legal, and reserved only if that of an entity or of one of its fields is. -/
theorem Definition.IsOf.legalFrom (made : ShapeIndex.ofTriples triples = .ok index)
    (isOf : definition.IsOf index) (names : definition.Names name) :
    LegalFrom (entitiesOf index) name := by
  have constants : ∀ name, name = identifierField ∨ name = inputArgument →
      LegalFrom (entitiesOf index) name := by
    rintro _ (rfl | rfl) <;> exact .of_free (by decide) (by decide)
  cases names with
  | object mem => exact isOf.legalFrom_object made mem
  | field mem there => exact (isOf.legalFrom_field made mem there).1
  | argument mem there asked =>
    exact constants _ ((isOf.legalFrom_field made mem there).2 _ asked)
  | input mem => exact (isOf.legalFrom_input made mem).1
  | inputField mem there => exact (isOf.legalFrom_input made mem).2 _ there

end Schemas

/-- Every text becomes a name, which is reserved if and only if the text starts with two characters other than
letters and digits. So every name of a schema is a name, and one of them is reserved if and only if the name
of an entity or of one of its fields is; the schema then makes no type system, as far as its types are told
apart by their names. -/
theorem names_legal_iff (text : String) (triples : List Triple) :
    (IsName (Shape.sanitizedName text) ∧
      (isReserved (Shape.sanitizedName text) = true ↔
        ∃ first second rest, text.toList = first :: second :: rest ∧
          first.isAlphanum = false ∧ second.isAlphanum = false)) ∧
    ∃ index definition, ShapeIndex.ofTriples triples = .ok index ∧
      Definition.ofIndex index = .ok definition ∧
      (∀ name, definition.Names name → IsName name) ∧
      ((∃ name, definition.Names name ∧ isReserved name = true) ↔
        ∃ entity ∈ definition.entities,
          isReserved entity.name = true ∨ ∃ field ∈ entity.fields, isReserved field.name = true) ∧
      ((definition.objects.map ObjectType.name ++ definition.inputs.map InputType.name).Nodup →
        (∃ name, definition.Names name ∧ isReserved name = true) →
        ∃ cause, GraphQL.TypeSystem.ofDefinition definition = .error cause) := by
  refine ⟨⟨GraphQL.isName_sanitizedName text, GraphQL.isReserved_sanitizedName_iff⟩, ?_⟩
  obtain ⟨index, definition, made, generated, isOf⟩ := ShapeIndex.exists_schema triples
  have inObjects {entity : ObjectType} (mem : entity ∈ definition.entities) :
      entity ∈ definition.objects := (List.mem_filter.1 mem).1
  have reserved_iff : (∃ name, definition.Names name ∧ isReserved name = true) ↔
      ∃ entity ∈ definition.entities,
        isReserved entity.name = true ∨ ∃ field ∈ entity.fields, isReserved field.name = true := by
    constructor
    · rintro ⟨name, names, reserved⟩
      rw [isOf.entities_eq]
      exact (isOf.legalFrom made names).2 reserved
    · rintro ⟨entity, mem, reserved | ⟨field, there, reserved⟩⟩
      · exact ⟨entity.name, .object (inObjects mem), reserved⟩
      · exact ⟨field.name, .field (inObjects mem) there, reserved⟩
  refine ⟨index, definition, made, generated, fun name names => (isOf.legalFrom made names).1,
    reserved_iff, fun distinct reserved => ?_⟩
  obtain ⟨entity, mem, reserved | ⟨field, there, reserved⟩⟩ := reserved_iff.1 reserved
  · -- the query for the entity is reserved too
    have inSchema : entity ∈ entitiesOf index := isOf.entities_eq ▸ mem
    have query : queryOf index ∈ definition.objects := isOf.mem_objects_iff.2 (Or.inl rfl)
    have lower := (GraphQL.legal_decapitalize (named_entitiesOf made entity inSchema).1).2
    exact GraphQL.TypeSystem.error_of_isReserved distinct query
      (List.mem_flatMap.2 ⟨entity, inSchema, List.mem_cons_self⟩) (lower.trans reserved)
  · exact GraphQL.TypeSystem.error_of_isReserved distinct (inObjects mem) there reserved

/-! ### Contacts with a name that starts with dashes -/

/-- The triples of a shape of contacts with a property of some name. -/
def bornTriples (name : String) : List Triple :=
  let shape := Node.iri "http://example.org/shapes#ContactShape"
  let property := Node.blank "b0"
  [Graph.typing shape Shacl.nodeShape,
   ⟨shape, Shacl.targetClass, .iri Resolution.AddressBook.person⟩,
   ⟨shape, Shacl.property, .node property⟩,
   ⟨property, Shacl.path, .iri "http://schema.org/birthDate"⟩,
   ⟨property, Shacl.name, .literal (.simple name)⟩,
   ⟨property, Shacl.datatype, .iri Xsd.string⟩]

/-- The schema of the shape. -/
def bornSchema (name : String) : Definition := ShapeIndex.schemaOf (bornTriples name)

/-- A dash at the start of a name becomes an underscore, which is not reserved, and the schema makes a type
system. -/
theorem names_legal_iff_dash :
    IsName (Shape.sanitizedName "-born") ∧ isReserved (Shape.sanitizedName "-born") = false ∧
      (∀ name, (bornSchema "-born").Names name → IsName name ∧ isReserved name = false) ∧
      (GraphQL.TypeSystem.ofDefinition (bornSchema "-born")).isOk = true := by
  obtain ⟨⟨sanitised, -⟩, index, definition, made, generated, isName, reserved_iff, -⟩ :=
    names_legal_iff "-born" (bornTriples "-born")
  obtain rfl := Except.ok.inj ((ShapeIndex.ofTriples_eq_indexOf _).symm.trans made)
  obtain rfl := Except.ok.inj ((ShapeIndex.ofIndex_eq_schemaOf _).symm.trans generated)
  have facts : isReserved (Shape.sanitizedName "-born") = false ∧
      (¬ ∃ entity ∈ (bornSchema "-born").entities,
        isReserved entity.name = true ∨ ∃ field ∈ entity.fields, isReserved field.name = true) ∧
      (GraphQL.TypeSystem.ofDefinition (bornSchema "-born")).isOk = true := by
    decide +kernel
  obtain ⟨free, allFree, accepted⟩ := facts
  refine ⟨sanitised, free, fun name names => ⟨isName name names, ?_⟩, accepted⟩
  exact Bool.eq_false_iff.2 fun reserved => allFree (reserved_iff.1 ⟨name, names, reserved⟩)

/-- Two dashes become two underscores, and no schema with such a field makes a type system. -/
theorem dashes_reserved :
    Shape.sanitizedName "--born" = "__born" ∧ isReserved "__born" = true ∧
      Definition.ofIndex (ShapeIndex.indexOf (bornTriples "--born")) = .ok (bornSchema "--born") ∧
      (bornSchema "--born").Names "__born" ∧
      GraphQL.TypeSystem.repeatedField? (bornSchema "--born") = none ∧
      (GraphQL.TypeSystem.ofDefinition (bornSchema "--born")).isOk = false := by
  have facts : Shape.sanitizedName "--born" = "__born" ∧ isReserved "__born" = true ∧
      (∃ type ∈ (bornSchema "--born").objects, ∃ field ∈ type.fields, field.name = "__born") ∧
      GraphQL.TypeSystem.repeatedField? (bornSchema "--born") = none ∧
      (GraphQL.TypeSystem.ofDefinition (bornSchema "--born")).isOk = false := by
    decide +kernel
  obtain ⟨sanitised, reserved, ⟨type, mem, field, there, named⟩, distinct, refused⟩ := facts
  exact ⟨sanitised, reserved, ShapeIndex.ofIndex_eq_schemaOf _, named ▸ .field mem there, distinct,
    refused⟩

end LinkedShapes.Schema
