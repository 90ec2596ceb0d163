import LinkedShapes.Proofs.InputFields

/-!
# The ranges of integers

Four datatypes are read as integers, but only one of them has all integers as values. An item of an input
is checked to be an integer and not to be in the range of the datatype that is declared. What is written is
the text of the integer with that datatype. It always stands for the integer, so that the literal belongs to
its datatype if the integer is in the range, and is ill-typed if it is not.

## Main statements

* `Xsd.HasValue`: the values of the datatypes of integers.
* `Literal.Belongs`: a literal stands for an integer that its datatype has.
* `Scalar.belongs_typed_intText_iff`: which of the literals that are written belong to their datatype.
* `Stated.writesIntegers`: what a creation and an update write through a field of integers.
* `integers_belong_iff`: all of this for the fields of an entity.
-/

namespace LinkedShapes.Number

/-- The integer written by a text, however large: an optional sign and decimal digits. -/
def readInteger? (text : List Char) : Option Int :=
  match text with
  | '-' :: rest => (readDigits? rest).map fun n => -Int.ofNat n
  | '+' :: rest => (readDigits? rest).map Int.ofNat
  | _ => (readDigits? text).map Int.ofNat

theorem readInteger?_digits (n : Nat) : readInteger? (digits n) = some (n : Int) := by
  unfold readInteger?
  split
  · rename_i rest first
    exact absurd (isDigit_of_digits_eq_cons first) (by decide)
  · rename_i rest first
    exact absurd (isDigit_of_digits_eq_cons first) (by decide)
  · simp [readDigits?_digits]

/-- The text of an integer is read as the integer. -/
theorem readInteger?_intText (n : Int) : readInteger? (intText n).toList = some n := by
  cases n with
  | ofNat n => rw [toList_intText_ofNat, readInteger?_digits, Int.ofNat_eq_natCast]
  | negSucc n =>
    rw [toList_intText_negSucc, readInteger?, readDigits?_digits, Option.map_some, Int.negSucc_eq]
    rfl

end LinkedShapes.Number

namespace LinkedShapes.Rdf

/-! ### Datatypes of integers -/

/-- The least and the greatest value of a datatype of integers, if it has such. -/
def Xsd.bounds? (datatype : String) : Option (Int × Int) :=
  if datatype = Xsd.long then some (-9223372036854775808, 9223372036854775807)
  else if datatype = Xsd.int then some (-2147483648, 2147483647)
  else if datatype = Xsd.short then some (-32768, 32767)
  else none

/-- An integer is a value of a datatype of integers. -/
def Xsd.HasValue (datatype : String) (n : Int) : Prop :=
  ∀ bounds ∈ Xsd.bounds? datatype, bounds.1 ≤ n ∧ n ≤ bounds.2

instance (datatype : String) : DecidablePred (Xsd.HasValue datatype) := fun n => by
  unfold Xsd.HasValue
  infer_instance

/-- A literal of a datatype of integers stands for an integer that is a value of the datatype. -/
def Literal.Belongs (literal : Literal) : Prop :=
  ∃ n, Number.readInteger? literal.value.toList = some n ∧ Xsd.HasValue literal.datatype n

/-- The values of a node under a predicate are literals of a datatype of integers and belong to it. -/
def Graph.HasDatatype (graph : Graph) (node : Node) (predicate datatype : String) : Prop :=
  ∀ object, (⟨node, predicate, object⟩ : Triple) ∈ graph →
    ∃ literal : Literal, object = .literal literal ∧ literal.datatype = datatype ∧ literal.Belongs

end LinkedShapes.Rdf

namespace LinkedShapes.Scalar

open Rdf

section Literals

variable {value : Json} {datatype : String} {literal : Literal}

theorem belongs_typed_intText_iff {n : Int} :
    (Literal.typed (Number.intText n) datatype).Belongs ↔ Xsd.HasValue datatype n := by
  constructor
  · rintro ⟨m, read, within⟩
    have same : some n = some m := (Number.readInteger?_intText n).symm.trans read
    exact Option.some.inj same ▸ within
  · exact fun within => ⟨n, Number.readInteger?_intText n, within⟩

theorem exists_intText_of_lexical? {text : String} (lexical : int.lexical? value = some text) :
    ∃ n, value = .int n ∧ Number.intText n = text := by
  cases value with
  | int n => exact ⟨n, rfl, Option.some.inj lexical⟩
  | _ => cases lexical

theorem storedDatatype_of_int (isInt : ofDatatype? datatype = some .int) :
    storedDatatype datatype = datatype := by
  unfold storedDatatype
  split
  · rename_i tagged
    rw [tagged] at isInt
    exact absurd isInt (by decide)
  · rfl

/-- What is written of an integer is its text, with the datatype. -/
theorem exists_int_of_literal? (isInt : ofDatatype? datatype = some .int)
    (written : int.literal? value datatype = some literal) :
    ∃ n, value = .int n ∧ literal = .typed (Number.intText n) datatype := by
  obtain ⟨text, lexical, rfl⟩ := exists_typed_of_literal? written
  obtain ⟨n, rfl, rfl⟩ := exists_intText_of_lexical? lexical
  exact ⟨n, rfl, by rw [storedDatatype_of_int isInt]⟩

/-- Whether a value can be written does not depend on the datatype. -/
theorem isSome_literal?_eq (scalar : Scalar) (value : Json) (datatype other : String) :
    (scalar.literal? value datatype).isSome = (scalar.literal? value other).isSome := by
  simp [literal?]

end Literals

end LinkedShapes.Scalar

namespace LinkedShapes.Resolution

open Rdf Ldp Schema Attempt

/-! ### The integers that an entity is written with -/

/-- The integers that the input of an entity has under a name were written under a predicate, with a
datatype. -/
structure WritesIntegers (world : World Store) (context : Context) (subject : String) (type : InputType)
    (values : List (String × Json)) (name predicate datatype : String) : Prop where
  /-- Every item is an integer, and a literal is told of it. -/
  told : ∀ value, (name, value) ∈ values → ∀ item ∈ writtenValues value, ∃ n, item = .int n ∧
    world.Tells context subject predicate (.typed (Number.intText n) datatype)
  /-- If nothing else is written under the predicate, then all values of the entity under it belong to the
  datatype if and only if the integers are in its range. -/
  hasDatatype_iff : (∀ written ∈ type.fields, written.property? = some predicate →
      written.name = name) →
    predicate ≠ RdfSyntax.type → (∃ value, (name, value) ∈ values) →
    ((world.graph context.graph).HasDatatype (.iri subject) predicate datatype ↔
      ∀ value, (name, value) ∈ values → ∀ n, .int n ∈ writtenValues value →
        Xsd.HasValue datatype n)

section Written

variable {world : World Store} {context : Context} {subject predicate datatype : String}
  {type : InputType} {values : List (String × Json)} {field : Field} {marked : Bool}

theorem Stated.writesIntegers (stated : Stated world context subject type values)
    (mirror : type.HasMirror field marked (some datatype))
    (stands : field.property? = some predicate) (isScalar : field.type.scalar? = some .int)
    (isInt : Scalar.ofDatatype? datatype = some .int) :
    WritesIntegers world context subject type values field.name predicate datatype := by
  obtain ⟨written, found, mirrors, declared⟩ := mirror
  have stands : written.property? = some predicate := mirrors.property.trans stands
  have isScalar : written.type.scalar? = some .int := by
    rw [mirrors.type]
    exact isScalar
  have told : ∀ value, (field.name, value) ∈ values → ∀ item ∈ writtenValues value, ∃ n,
      item = .int n ∧ world.Tells context subject predicate (.typed (Number.intText n) datatype) := by
    intro value given item mem
    obtain ⟨literal, made, gives⟩ :=
      gives_of_member stated.writable given found stands isScalar mem
    rw [declared, Option.getD_some] at made
    obtain ⟨n, rfl, rfl⟩ := Scalar.exists_int_of_literal? isInt made
    exact ⟨n, rfl, stated.graph _ _ gives, stated.document _ _ gives⟩
  refine ⟨told, fun alone notClass ⟨value, given⟩ => ⟨?_, ?_⟩⟩
  · intro conforms value given n mem
    obtain ⟨m, same, inGraph, -⟩ := told value given _ mem
    obtain rfl := Json.int.inj same
    obtain ⟨literal, same, -, belongs⟩ := conforms _ inGraph
    obtain rfl := Term.literal.inj same
    exact Scalar.belongs_typed_intText_iff.1 belongs
  · intro within object there
    have named : type.Names values predicate := ⟨_, value, written, given, found, stands⟩
    obtain ⟨literal, gives, rfl⟩ := stated.only predicate named notClass object there
    -- what is given under the predicate is given through the field
    obtain ⟨name, value, other, scalar, given, found', stands', isScalar', item, mem, made⟩ := gives
    have same : other.name = name := by simpa using List.find?_some found'
    obtain rfl : name = field.name :=
      same.symm.trans (alone other (List.mem_of_find?_eq_some found') stands')
    obtain rfl := Option.some.inj (found.symm.trans found')
    obtain rfl := Option.some.inj (isScalar.symm.trans isScalar')
    rw [declared, Option.getD_some] at made
    obtain ⟨n, rfl, rfl⟩ := Scalar.exists_int_of_literal? isInt made
    exact ⟨_, rfl, rfl, Scalar.belongs_typed_intText_iff.2 (within value given n mem)⟩

end Written

end LinkedShapes.Resolution

namespace LinkedShapes.Schema

open Rdf Ldp Resolution Attempt

/-- What is written of an integer with a datatype of integers is its text, whatever the datatype is: a
value can be written with one of them if it can be with another. The literal belongs to its datatype if and
only if the integer is in the range of the datatype. So it is with a creation and an update that is answered:
the integers that are given for a property are told as literals of the datatype of the property, if this is
the first one of its name, and the entity has values of the datatype under the predicate if and only if
these integers are in the range. -/
theorem integers_belong_iff {datatype : String} (isInt : Scalar.ofDatatype? datatype = some .int) :
    (∀ value, (Scalar.int.literal? value datatype).isSome =
      (Scalar.int.literal? value Xsd.integer).isSome) ∧
    (∀ value literal, Scalar.int.literal? value datatype = some literal →
      ∃ n, value = .int n ∧ literal = .typed (Number.intText n) datatype ∧
        (literal.Belongs ↔ Xsd.HasValue datatype n)) ∧
    ∀ (triples : List Triple) (index : ShapeIndex) (definition : Definition) (entity : ObjectType)
      (field : Field) (property : PropertyShape), ShapeIndex.ofTriples triples = .ok index →
      Definition.ofIndex index = .ok definition → entity ∈ definition.entities →
      field ∈ entity.fields → field.property?.isSome = true →
      sourceOf? index entity field = some property → property.kind = .scalar .int datatype →
      IsForemost index entity property →
      ∀ (resolver : Resolver) (request : Request) (world after : World Store) (result : Resolved),
        resolver.definition = definition → request.WritesInput world →
        (resolver.resolve request).Returns Store.client world result after →
        ∃ type values context subject, inputObject resolver request = .ok (type, values) ∧
          result = .node context ∧ context.subject = some (.iri subject) ∧
          (type.name = createInputName entity.name ∨ type.name = updateInputName entity.name →
            WritesIntegers after context subject type values field.name property.path datatype) := by
  refine ⟨fun value => Scalar.isSome_literal?_eq _ _ _ _, fun value literal written => ?_, ?_⟩
  · obtain ⟨n, rfl, rfl⟩ := Scalar.exists_int_of_literal? isInt written
    exact ⟨n, rfl, rfl, Scalar.belongs_typed_intText_iff⟩
  · intro triples index definition entity field property made generated inSchema there stands source
      kind foremost resolver request world after result same writes ran
    have isOf : definition.IsOf index := ShapeIndex.isOf_of_ofIndex made generated
    rw [isOf.entities_eq] at inSchema
    obtain ⟨property', typeName, source', usable, rfl⟩ := exists_sourceOf? inSchema there stands
    obtain rfl := Option.some.inj (source.symm.trans source')
    have type : (propertyField property typeName).type.scalar? = some .int := by
      have treats := isOf.treats inSchema there usable
      rw [kind] at treats
      cases treats with
      | scalar treated => exact treated.type
    have isScalar : (propertyField property typeName).isScalarProperty = true := by
      rw [Field.isScalarProperty, type]
      rfl
    obtain ⟨input, values, context, subject, given, answer, stated⟩ := writes.stated ran
    refine ⟨input, values, context, subject, given, answer, stated.named, fun named => ?_⟩
    obtain ⟨argument, -, known, -⟩ := inputObject_eq_ok_iff.1 given
    have mem : input ∈ definition.inputs :=
      same ▸ List.mem_of_find?_eq_some (Definition.input_eq_ok_iff.1 known)
    obtain ⟨marked, mirror⟩ := isOf.exists_hasMirror inSchema there isScalar mem named
    have declared : datatypeOf? (index.named? entity.name)
        (propertyField property typeName).name = some datatype :=
      datatypeOf?_of_isForemost foremost kind
    rw [declared] at mirror
    exact stated.writesIntegers mirror rfl type isInt

/-- The age of a new contact, which is declared to be a short integer, is one if it is 42. -/
theorem integers_belong_iff_age :
    ((contactResolver ageProperty).resolve (contactCreation ageProperty (.int 42))).Returns
        Store.client vacant (.node joe) (contactCreated ageProperty (.int 42)) ∧
      ((contactCreated ageProperty (.int 42)).graph joe.graph).HasDatatype
        (.iri "http://example.org/contacts/joe#joe") "http://schema.org/age" Xsd.short := by
  have ran : ((contactResolver ageProperty).resolve (contactCreation ageProperty (.int 42))).Returns
      Store.client vacant (.node joe) (contactCreated ageProperty (.int 42)) := rfl
  refine ⟨ran, ?_⟩
  have generated : Definition.ofIndex (ShapeIndex.indexOf (contactTriples "age" Xsd.short)) =
      .ok (contactResolver ageProperty).definition := by
    have same : ShapeIndex.schemaOf (contactTriples "age" Xsd.short) =
        (contactResolver ageProperty).definition := by
      decide +kernel
    exact same ▸ ShapeIndex.ofIndex_eq_schemaOf _
  have facts : contactEntity ageProperty ∈ (contactResolver ageProperty).definition.entities ∧
      contactField ageProperty ∈ (contactEntity ageProperty).fields ∧
      sourceOf? (ShapeIndex.indexOf (contactTriples "age" Xsd.short)) (contactEntity ageProperty)
        (contactField ageProperty) = some ageProperty ∧
      ((ShapeIndex.indexOf (contactTriples "age" Xsd.short)).named? "Contact").bind
        (·.properties.find? (·.name = "age")) = some ageProperty := by
    decide +kernel
  obtain ⟨inSchema, there, source, first⟩ := facts
  obtain ⟨-, -, written⟩ := integers_belong_iff (show Scalar.ofDatatype? Xsd.short = some .int by decide)
  obtain ⟨type, values, context, subject, input, answer, named, writes⟩ :=
    written _ _ _ _ _ _ (ShapeIndex.ofTriples_eq_indexOf _) generated inSchema there rfl source rfl
      (Option.bind_eq_some_iff.1 first) _ _ vacant _ _ rfl (.create ⟨rfl, rfl, by decide, rfl⟩) ran
  obtain rfl := Resolved.node.inj answer
  obtain rfl := Node.iri.inj (Option.some.inj named)
  have members : inputObject (contactResolver ageProperty) (contactCreation ageProperty (.int 42)) =
      .ok (((contactResolver ageProperty).definition.input "CreateContactInput").toOption.getD default,
        [(slugField, .string "joe"), ("age", .array [.int 42])]) := rfl
  obtain ⟨rfl, rfl⟩ := Prod.mk.inj (Except.ok.inj (members.symm.trans input))
  refine ((writes (.inl rfl)).hasDatatype_iff (by decide +kernel) (by decide)
    ⟨_, List.mem_cons_of_mem _ (List.mem_singleton_self _)⟩).2 ?_
  intro value given n mem
  have other : (contactField ageProperty).name ≠ slugField := by decide +kernel
  obtain ⟨-, rfl⟩ : (contactField ageProperty).name = "age" ∧ value = .array [.int 42] := by
    simpa [other] using given
  obtain rfl : n = 42 := by simpa [writtenValues, Json.isNull] using mem
  decide

/-- An age of 40000 is no short integer. It is written as one all the same, with the literal that is made of
it. -/
theorem short_out_of_range :
    Scalar.ofDatatype? Xsd.short = some .int ∧
      Scalar.int.literal? (.int 40000) Xsd.short = some (.typed "40000" Xsd.short) ∧
      ¬ Xsd.HasValue Xsd.short 40000 ∧
      ((contactResolver ageProperty).resolve (contactCreation ageProperty (.int 40000))).Returns
        Store.client vacant (.node joe) (contactCreated ageProperty (.int 40000)) ∧
      (contactCreated ageProperty (.int 40000)).Tells joe "http://example.org/contacts/joe#joe"
        "http://schema.org/age" (.typed "40000" Xsd.short) := by
  refine ⟨by decide, by decide, by decide, rfl, ?_⟩
  unfold World.Tells
  rw [← Graph.contains_eq_true_iff, ← Graph.contains_eq_true_iff]
  decide +kernel

end LinkedShapes.Schema
