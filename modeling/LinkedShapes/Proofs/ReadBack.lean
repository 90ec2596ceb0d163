import LinkedShapes.Proofs.Freshness
import LinkedShapes.Proofs.Updating
import LinkedShapes.Proofs.Values

/-!
# Reading what was written

A scalar is written as the text of a literal and read back from it. Texts and truth values come back as
they were. An integer comes back if it is a signed integer of 64 bits; an input may also hold greater ones,
up to the unsigned integers of 64 bits. These are written like all others, but what is written is not read
as an integer, so that the field of the entity leaves it out.

## Main statements

* `Scalar.read?_of_literal?`: which values are read back from the literal that they are written as.
* `Request.Writes.written`: what the answer and the document of a creation or an update hold.
* `rereads_of_mem`: a field shows a value that was written if the value can be read back.
* `written_then_read`: the values of a creation and of an update, read afterwards.
-/

namespace LinkedShapes

open Rdf

/-! ### Values and literals -/

/-- A value that is a signed integer of 64 bits if it is an integer. -/
def Json.FitsInt64 : Json → Prop
  | .int n => Number.minInt64 ≤ n ∧ n ≤ Number.maxInt64
  | _ => True

instance : DecidablePred Json.FitsInt64 := fun value => by
  cases value <;> unfold Json.FitsInt64 <;> infer_instance

namespace Scalar

variable {scalar : Scalar} {value : Json} {datatype : String} {literal : Literal} {term : Term}

/-- The datatype does not change the text. -/
theorem literal?_eq_some_iff :
    scalar.literal? value datatype = some literal ↔ ∃ text, scalar.lexical? value = some text ∧
      (if datatype = Xsd.string ∨ datatype = RdfSyntax.langString then .simple text
        else .typed text datatype) = literal := by
  simp [literal?]

theorem value_of_literal? (written : scalar.literal? value datatype = some literal) :
    scalar.lexical? value = some literal.value := by
  obtain ⟨text, lexical, rfl⟩ := literal?_eq_some_iff.1 written
  rw [lexical]
  split <;> rfl

/-- The text of an integer has no white space. -/
theorem trim_intText (n : Int) : Text.trim (Number.intText n).toList = (Number.intText n).toList := by
  have dense {m : Nat} {c : Char} (mem : c ∈ Number.digits m) : Text.isWhiteSpace c = false :=
    Text.isWhiteSpace_eq_false_of_isDigit (Number.isDigit_of_mem_digits mem)
  refine Text.trim_eq_self fun c mem => ?_
  cases n with
  | ofNat n => exact dense (Number.toList_intText_ofNat n ▸ mem)
  | negSucc n =>
    rw [Number.toList_intText_negSucc, List.mem_cons] at mem
    obtain rfl | mem := mem
    · rfl
    · exact dense mem

/-- A value that is written is read back, unless it is an integer out of the range of 64 bits. -/
theorem read?_of_literal? (notFloat : scalar ≠ .float)
    (written : scalar.literal? value datatype = some literal) :
    scalar.read? (.literal literal) = if value.FitsInt64 then some value else none := by
  have lexical := value_of_literal? written
  unfold read? readLiteral?
  cases scalar with
  | int =>
    cases value with
    | int n =>
      have text : Number.intText n = literal.value := Option.some.inj lexical
      have number : Number.readInt64? (Text.trim literal.value.toList) =
          if Number.minInt64 ≤ n ∧ n ≤ Number.maxInt64 then some n else none := by
        rw [← text, trim_intText, Number.readInt64?_intText]
      change Option.map Json.int (Number.readInt64? (Text.trim literal.value.toList)) = _
      by_cases fits : (Json.int n).FitsInt64
      · have within : Number.minInt64 ≤ n ∧ n ≤ Number.maxInt64 := fits
        rw [number, if_pos fits, if_pos within, Option.map_some]
      · have without : ¬ (Number.minInt64 ≤ n ∧ n ≤ Number.maxInt64) := fits
        rw [number, if_neg fits, if_neg without, Option.map_none]
    | _ => cases lexical
  | float => exact absurd rfl notFloat
  | string =>
    cases value with
    | string text =>
      have same : text = literal.value := Option.some.inj lexical
      simp [← same, Json.FitsInt64]
    | _ => cases lexical
  | boolean =>
    cases value with
    | bool b =>
      have text : (if b then "true" else "false") = literal.value := Option.some.inj lexical
      simp only [← text]
      cases b <;> rfl
    | _ => cases lexical

/-- An integer that is read is in the range of 64 bits. -/
theorem fitsInt64_of_read? (read : scalar.read? term = some value) : value.FitsInt64 := by
  cases value with
  | int n =>
    cases term with
    | literal literal =>
      cases scalar with
      | int =>
        obtain ⟨m, read, same⟩ := Option.map_eq_some_iff.1 read
        exact Json.int.inj same ▸ Number.bounds_of_readInt64? read
      | float =>
        obtain ⟨x, -, same⟩ := Option.map_eq_some_iff.1 read
        cases same
      | string => cases Option.some.inj read
      | boolean =>
        obtain ⟨b, -, same⟩ := Option.map_eq_some_iff.1 read
        cases same
    | node node =>
      cases node with
      | iri text =>
        rw [read?] at read
        split at read <;> cases read
      | blank label => cases read
  | _ => trivial

end Scalar

end LinkedShapes

namespace LinkedShapes.Schema

open Rdf Resolution

/-- An input writes an item under a property as a scalar: the item is among the values that a member for
the property gives. -/
def InputType.Writes (type : InputType) (values : List (String × Json)) (property : String)
    (scalar : Scalar) (item : Json) : Prop :=
  ∃ name value field, (name, value) ∈ values ∧ type.field? name = some field ∧
    field.property? = some property ∧ field.type.scalar? = some scalar ∧ item ∈ writtenValues value

end LinkedShapes.Schema

namespace LinkedShapes.Resolution

open Rdf Ldp Schema Attempt

/-! ### Items and the literals that are given for them -/

section Inputs

variable {type : InputType} {values : List (String × Json)} {subject property : String}
  {field : InputField} {scalar : Scalar} {item value : Json}

/-- Every member of an input whose field stands for a property can be written. -/
def Writable (type : InputType) (values : List (String × Json)) : Prop :=
  ∀ name value field property, (name, value) ∈ values → type.field? name = some field →
    field.property? = some property → ∃ literals, literalsOf field property value = .ok literals

/-- An item of a member whose field stands for a property is given as a literal of the datatype of the
field. -/
theorem gives_of_member {name : String} (writable : Writable type values)
    (there : (name, value) ∈ values) (found : type.field? name = some field)
    (stands : field.property? = some property) (isScalar : field.type.scalar? = some scalar)
    (written : item ∈ writtenValues value) :
    ∃ literal, scalar.literal? item (field.datatype.getD scalar.defaultDatatype) = some literal ∧
      type.Gives values property literal := by
  obtain ⟨literals, made⟩ := writable name value field property there found stands
  unfold literalsOf at made
  simp only [isScalar] at made
  obtain ⟨literal, -, isLiteral⟩ := exists_of_mapM_eq_ok made written
  split at isLiteral
  · rename_i literal given
    exact ⟨_, given, name, value, field, scalar, there, found, stands, isScalar, item, written, given⟩
  · cases isLiteral

/-- An item that is written is given as a literal. -/
theorem exists_gives_of_writes (writable : Writable type values)
    (writes : type.Writes values property scalar item) :
    ∃ datatype literal, scalar.literal? item datatype = some literal ∧
      type.Gives values property literal := by
  obtain ⟨name, value, field, there, found, stands, isScalar, written⟩ := writes
  exact ⟨_, gives_of_member writable there found stands isScalar written⟩

theorem writable_of_statedTriples {stated : List Triple}
    (made : statedTriples subject type values = .ok stated) : Writable type values := by
  intro name value field property there found stands
  unfold statedTriples at made
  obtain ⟨lists, mapped, -⟩ := except_bind_eq_ok.1 made
  obtain ⟨_, -, member⟩ := exists_of_mapM_eq_ok mapped there
  obtain ⟨field', found', member⟩ := except_bind_eq_ok.1 member
  cases found.symm.trans (inputField_eq_ok_iff.1 found')
  simp only [stands] at member
  obtain ⟨literals, given, -⟩ := except_bind_eq_ok.1 member
  exact ⟨literals, given⟩

theorem writable_of_updatePatch {entity : ObjectType} {graph : Graph} {patch : Patch}
    (made : updatePatch entity type subject graph values = .ok patch) :
    Writable type values := by
  intro name value field property there found stands
  obtain ⟨_, alone⟩ := exists_updatePatch_iff.1 ⟨patch, made⟩ (name, value) there
  obtain ⟨field', found', alone⟩ := updateMember_eq_ok_iff.1 alone
  cases found.symm.trans found'
  simp only [stands] at alone
  obtain ⟨-, literals, given, -⟩ := alone
  exact ⟨literals, given⟩

end Inputs

/-! ### What a creation and an update leave behind -/

/-- The field creates an entity, or updates the one of a context that is read from a shared graph. -/
inductive Request.WritesInput (request : Request) (world : World Store) : Prop
  /-- An entity is created. -/
  | create (mutates : request.Mutates .create)
  /-- An entity is updated. -/
  | update {context : Context} {subject : String} (updates : request.Updates context subject)
    (there : context.graph < world.graphs.size)

/-- What is given by an input was stated of an entity, in its graph and in its document. -/
structure Stated (world : World Store) (context : Context) (subject : String) (type : InputType)
    (values : List (String × Json)) : Prop where
  /-- The entity has the IRI. -/
  named : context.subject = some (.iri subject)
  /-- What is given could be written. -/
  writable : Writable type values
  /-- The graph has what is given. -/
  graph : ∀ property literal, type.Gives values property literal →
    literalTriple subject property literal ∈ world.graph context.graph
  /-- The document has what is given. -/
  document : ∀ property literal, type.Gives values property literal →
    literalTriple subject property literal ∈ world.resources.documentOrEmpty context.url
  /-- Of a property that is named, but for the class, the graph has nothing else. -/
  only : ∀ property, type.Names values property → property ≠ RdfSyntax.type → ∀ object,
    (⟨.iri subject, property, object⟩ : Triple) ∈ world.graph context.graph →
      ∃ literal, type.Gives values property literal ∧ object = .literal literal

section Runs

variable {world after : World Store} {resolver : Resolver} {request : Request} {result : Resolved}
  {type : InputType} {values : List (String × Json)} {cls document subject : String}
  {kind : ResourceKind}

/-- What a creation writes is in the document afterwards. -/
theorem mem_documentOrEmpty_of_creationWrite {inserts : List Triple} {store : Store} {url : String}
    (accepted : (Store.client.write url (creationWrite inserts kind) store).1 = .ok ()) :
    ∀ t ∈ inserts,
      t ∈ (Store.client.write url (creationWrite inserts kind) store).2.documentOrEmpty url := by
  intro t mem
  cases kind with
  | container =>
    change t ∈ ((store.note url _).put url (Graph.ofList inserts)).documentOrEmpty url
    rw [Store.documentOrEmpty_put, if_pos rfl]
    exact Graph.mem_ofList.2 mem
  | document => exact ((Store.patchedAt_of_accepted accepted).document t).2 (.inr mem)

theorem stated_of_returns_writeNew
    (ran : (writeNew cls type values kind document subject).Returns Store.client world result after) :
    ∃ context, result = .node context ∧ Stated after context subject type values := by
  obtain ⟨stated, states, ran⟩ := returns_lift_bind.1 ran
  obtain ⟨_, _, sent, ran⟩ := returns_bind.1 ran
  obtain ⟨ref, _, copied, ran⟩ := returns_bind.1 ran
  obtain ⟨rfl, rfl⟩ := returns_pure.1 ran
  obtain ⟨rfl, rfl⟩ := returns_newGraph.1 copied
  obtain ⟨accepted, rfl⟩ := returns_write.1 sent
  refine ⟨_, rfl, ?_⟩
  have given {property : String} {literal : Literal} (gives : type.Gives values property literal) :
      literalTriple subject property literal ∈ Graph.typing (.iri subject) cls :: stated :=
    List.mem_cons_of_mem _ ((mem_statedTriples states).2 ⟨property, literal, gives, rfl⟩)
  constructor
  case named => rfl
  case writable => exact writable_of_statedTriples states
  case graph =>
    intro property literal gives
    rw [World.graph_of_push rfl]
    exact Graph.mem_ofList.2 (given gives)
  case document =>
    intro property literal gives
    exact mem_documentOrEmpty_of_creationWrite accepted _ (given gives)
  case only =>
    intro property _ notClass object there
    rw [World.graph_of_push rfl, Graph.mem_ofList, List.mem_cons, mem_statedTriples states] at there
    obtain typing | ⟨property', literal, gives, same⟩ := there
    · exact absurd (congrArg Triple.predicate typing) notClass
    · cases same
      exact ⟨literal, gives, rfl⟩

theorem stated_of_returns_create
    (ran : (create resolver request).Returns Store.client world result after) :
    ∃ type values context subject, inputObject resolver request = .ok (type, values) ∧
      result = .node context ∧ Stated after context subject type values := by
  rw [create_eq] at ran
  obtain ⟨cls, -, ran⟩ := returns_lift_bind.1 ran
  obtain ⟨target, -, ran⟩ := returns_lift_bind.1 ran
  obtain ⟨⟨type, values⟩, input, ran⟩ := returns_lift_bind.1 ran
  obtain ⟨kind, _, -, ran⟩ := returns_bind.1 ran
  cases kind with
  | container =>
    obtain ⟨⟨document, subject⟩, _, -, ran⟩ := returns_bind.1 ran
    obtain ⟨_, _, -, ran⟩ := returns_bind.1 ran
    obtain ⟨context, answer, stated⟩ := stated_of_returns_writeNew ran
    exact ⟨type, values, context, subject, input, answer, stated⟩
  | document =>
    obtain ⟨subject, _, -, ran⟩ := returns_bind.1 ran
    obtain ⟨context, answer, stated⟩ := stated_of_returns_writeNew ran
    exact ⟨type, values, context, subject, input, answer, stated⟩

theorem stated_of_updates {context : Context} (updates : request.Updates context subject)
    (there : context.graph < world.graphs.size)
    (ran : (resolver.resolve request).Returns Store.client world result after) :
    ∃ type values, inputObject resolver request = .ok (type, values) ∧
      result = .node context.afterMutation ∧
      Stated after context.afterMutation subject type values := by
  obtain ⟨entity, type, values, patch, -, input, patched, applied, answer⟩ := updates.returns_iff.1 ran
  have replaced := (updates.replaced there ran input).1
  refine ⟨type, values, input, answer, ?_⟩
  constructor
  case named => exact updates.named
  case writable => exact writable_of_updatePatch patched
  case graph =>
    intro property literal gives
    exact (replaced.named property gives.names _).2 ⟨literal, gives, rfl⟩
  case document =>
    intro property literal gives
    have inserted : literalTriple subject property literal ∈ patch.inserts :=
      (mem_inserts_updatePatch patched).2 ⟨property, literal, gives, rfl⟩
    have filled : patch.isEmpty = false := by
      rw [← Bool.not_eq_true, Patch.isEmpty_iff]
      rintro ⟨none, -⟩
      exact List.not_mem_nil (none ▸ inserted)
    exact ((patched_of_applyPatch there filled applied).document _).2 (.inr inserted)
  case only =>
    intro property named _ object there
    exact (replaced.named property named object).1 there

/-- A creation or an update that is answered has stated what its input gives. -/
theorem Request.WritesInput.stated (writes : request.WritesInput world)
    (ran : (resolver.resolve request).Returns Store.client world result after) :
    ∃ type values context subject, inputObject resolver request = .ok (type, values) ∧
      result = .node context ∧ Stated after context subject type values := by
  cases writes with
  | create mutates =>
    rw [resolve_of_mutates mutates] at ran
    exact stated_of_returns_create ran
  | update updates there =>
    obtain ⟨type, values, input, answer, stated⟩ := stated_of_updates updates there ran
    exact ⟨type, values, _, _, input, answer, stated⟩

end Runs

/-! ### Reading it again -/

/-- What an entity shows of an item under a property: a list of the scalars has the item if it can be
read back, and where the entity has one scalar, it is the item, or else there is none. -/
structure Rereads (resolver : Resolver) (world : World Store) (context : Context) (property : String)
    (scalar : Scalar) (item : Json) : Prop where
  /-- A field with a list. -/
  list : ∀ request : Request, request.field.property? = some property →
    request.field.type.scalar? = some scalar → request.field.type.list = true →
    request.parent = some context →
    ∃ shown : List Json,
      (resolver.resolve request).Returns Store.client world (.list (shown.map .scalar)) world ∧
        (item ∈ shown ↔ item.FitsInt64)
  /-- A field with one value, where the graph has no more than one. -/
  single : ∀ (request : Request) (node : Node), request.field.property? = some property →
    request.field.type.scalar? = some scalar → request.field.type.list = false →
    request.parent = some context → context.subject = some node →
    (∀ t ∈ (world.graph context.graph).values node property,
      ∀ u ∈ (world.graph context.graph).values node property, t = u) →
    (resolver.resolve request).Returns Store.client world
      (if item.FitsInt64 then .scalar item else .null) world

section Reading

variable {world : World Store} {resolver : Resolver} {context : Context} {graph : Graph} {node : Node}
  {property : String} {scalar : Scalar} {item : Json} {datatype : String} {literal : Literal}

/-- An item that was written is read if it can be read back. -/
theorem mem_scalarValues_iff_fitsInt64 (notFloat : scalar ≠ .float)
    (written : scalar.literal? item datatype = some literal)
    (there : (⟨node, property, .literal literal⟩ : Triple) ∈ graph) :
    item ∈ scalarValues graph node property scalar ↔ item.FitsInt64 := by
  rw [mem_scalarValues]
  constructor
  · rintro ⟨object, -, read⟩
    exact Scalar.fitsInt64_of_read? read
  · intro fits
    exact ⟨.literal literal, there, by rw [Scalar.read?_of_literal? notFloat written, if_pos fits]⟩

/-- If the graph has no other value, no other one is read. -/
theorem scalarValues_of_only (notFloat : scalar ≠ .float)
    (written : scalar.literal? item datatype = some literal)
    (there : (⟨node, property, .literal literal⟩ : Triple) ∈ graph)
    (only : ∀ t ∈ graph.values node property, ∀ u ∈ graph.values node property, t = u) :
    scalarValues graph node property scalar = if item.FitsInt64 then [item] else [] := by
  have mem : (⟨node, property, .literal literal⟩ : Triple) ∈ graph.values node property :=
    Graph.mem_values.2 ⟨there, rfl, rfl⟩
  have one : graph.values node property = [⟨node, property, .literal literal⟩] := by
    have nodup : (graph.values node property).Nodup := graph.nodup_find _
    cases listed : graph.values node property with
    | nil => simp [listed] at mem
    | cons first rest =>
      rw [listed] at mem only nodup
      cases rest with
      | nil => rw [List.mem_singleton.1 mem]
      | cons second rest =>
        have same : first = second := only first (by simp) second (by simp)
        simp [same] at nodup
  rw [scalarValues, one]
  simp only [Text.sortBy, List.map_cons, List.map_nil, List.mergeSort_singleton, List.filterMap_cons,
    List.filterMap_nil, Scalar.read?_of_literal? notFloat written]
  by_cases fits : item.FitsInt64
  · rw [if_pos fits, if_pos fits]
  · rw [if_neg fits, if_neg fits]

/-- An entity whose graph has the literal of an item shows the item if it can be read back. -/
theorem rereads_of_mem (notFloat : scalar ≠ .float)
    (written : scalar.literal? item datatype = some literal) (subject : context.subject = some node)
    (there : (⟨node, property, .literal literal⟩ : Triple) ∈ world.graph context.graph) :
    Rereads resolver world context property scalar item := by
  constructor
  case list =>
    intro request stands scalars list parent
    refine ⟨_, ?_, mem_scalarValues_iff_fitsInt64 notFloat written there⟩
    have ran : (resolver.resolve request).Returns Store.client world _ world :=
      returns_scalars stands scalars parent subject rfl
    simpa [Resolved.ofItems, list] using ran
  case single =>
    intro request node' stands scalars single parent subject' only
    obtain rfl := Option.some.inj (subject.symm.trans subject')
    have ran : (resolver.resolve request).Returns Store.client world _ world :=
      returns_scalars stands scalars parent subject rfl
    rw [scalarValues_of_only notFloat written there only] at ran
    by_cases fits : item.FitsInt64
    · simpa [Resolved.ofItems, single, fits] using ran
    · simpa [Resolved.ofItems, single, fits] using ran

end Reading

section Entries

variable {after later last : World Store} {resolver : Resolver} {query : Request}
  {context found : Context} {typeName identifier subject : String} {type : InputType}
  {values : List (String × Json)}

/-- An entity that is looked up in a document is read with all that is in the document. -/
theorem mem_graph_of_found (finds : query.Finds typeName identifier)
    (ran : (resolver.resolve query).Returns Store.client later (.node found) last) {t : Triple}
    (there : t ∈ later.resources.documentOrEmpty found.url) : t ∈ last.graph found.graph := by
  obtain ⟨cls, target, iri, found?, -, -, looked, answer⟩ := exists_lookUp_of_returns finds ran
  obtain rfl : found? = some found := by
    cases found? with
    | none => cases answer
    | some context => rw [Resolved.node.inj answer]
  obtain ⟨kind, graph, -, held, -, rfl, rfl⟩ := returns_lookUpInstance_some_iff.1 looked
  rw [World.graph_of_push rfl]
  unfold Store.graphOf at held
  split at held
  · exact (Store.mem_containerGraph held).2 (.inl there)
  · rename_i noContainer
    dsimp only at there
    rw [Store.document?_of_mem there] at held
    exact Except.ok.inj held ▸ there

/-- What was stated of an entity is read when the entity is found in its document later. -/
theorem Stated.mem_of_found (stated : Stated after context subject type values)
    (asked : after.resources.Asked later.resources) (finds : query.Finds typeName identifier)
    (ran : (resolver.resolve query).Returns Store.client later (.node found) last)
    (url : found.url = context.url) {property : String} {literal : Literal}
    (gives : type.Gives values property literal) :
    literalTriple subject property literal ∈ last.graph found.graph := by
  refine mem_graph_of_found finds ran ?_
  have there := stated.document property literal gives
  rw [Store.documentOrEmpty, Store.document?] at there ⊢
  rwa [asked.documents, url]

end Entries

/-- A text, a truth value or an integer that can be written is read back from its literal, unless it is an
integer out of the range of 64 bits. So the fields of a scalar show every item that the input of a creation
or an update holds for it, but for such integers: the fields of the entity that is answered, and those of
the entity that is found in its document as long as nothing else was written. -/
theorem written_then_read (scalar : Scalar) (notFloat : scalar ≠ .float) :
    (∀ (value : Json) (datatype : String) (literal : Literal),
      scalar.literal? value datatype = some literal →
      scalar.read? (.literal literal) = if value.FitsInt64 then some value else none) ∧
    ∀ (resolver : Resolver) (request : Request) (world after : World Store) (result : Resolved),
      request.WritesInput world → (resolver.resolve request).Returns Store.client world result after →
      ∃ type values context subject, inputObject resolver request = .ok (type, values) ∧
        result = .node context ∧ Stated after context subject type values ∧
        ∀ property item, type.Writes values property scalar item →
          Rereads resolver after context property scalar item ∧
          ∀ (query : Request) (typeName identifier : String) (later last : World Store)
            (found : Context), query.Finds typeName identifier →
            after.resources.Asked later.resources →
            (resolver.resolve query).Returns Store.client later (.node found) last →
            found.subject = context.subject → found.url = context.url →
            Rereads resolver last found property scalar item := by
  refine ⟨fun _ _ _ => Scalar.read?_of_literal? notFloat, ?_⟩
  intro resolver request world after result writes ran
  obtain ⟨type, values, context, subject, input, answer, stated⟩ := writes.stated ran
  refine ⟨type, values, context, subject, input, answer, stated, ?_⟩
  intro property item isWritten
  obtain ⟨datatype, literal, written, gives⟩ := exists_gives_of_writes stated.writable isWritten
  refine ⟨rereads_of_mem notFloat written stated.named (stated.graph property literal gives), ?_⟩
  intro query typeName identifier later last found finds asked looked same url
  exact rereads_of_mem notFloat written (same.trans stated.named)
    (stated.mem_of_found asked finds looked url gives)

namespace AddressBook

/-- The schema of contacts whose visits are counted, year by year. -/
def withVisits : Resolver :=
  let visits := { name := "visits", path := "http://schema.org/interactionCount",
                  kind := .scalar .int Xsd.integer, minCount := none, maxCount := none }
  let shape := { shape with properties := shape.properties ++ [visits] }
  { resolver with
    definition := (Definition.ofIndex { index with shapes := [shape], byClass := [(person, shape)] }
      ).toOption.getD default }

/-- The least integer above those of 64 bits with a sign. -/
def huge : Int := 9223372036854775808

/-- A name, a count of visits and one that is too large. -/
def counts : List (String × Json) :=
  [(slugField, .string "joe"), ("visits", .array [.int 7, .int huge])]

/-- The creation of a contact with the counts. -/
def visited : Request :=
  let owner := (withVisits.definition.object? mutationType).getD default
  { owner, field := (owner.field? "createContact").getD default,
    arguments := [(inputArgument, .object counts)], parent := none }

/-- The type of the input of the creation. -/
def countsType : InputType :=
  (withVisits.definition.input "CreateContactInput").toOption.getD default

/-- The visits of a contact. -/
def visits (contact : Context) : Request :=
  let owner := (withVisits.definition.object? "Contact").getD default
  { owner, field := (owner.field? "visits").getD default, arguments := [], parent := some contact }

end AddressBook

open AddressBook

/-- The count of visits of a new contact is shown, and the one that is too large is not. -/
theorem written_then_read_visits :
    ∃ context after, (withVisits.resolve visited).Returns Store.client vacant (.node context) after ∧
      ∃ shown : List Json,
        (withVisits.resolve (visits context)).Returns Store.client after
          (.list (shown.map .scalar)) after ∧
        .int 7 ∈ shown ∧ .int huge ∉ shown := by
  have writes : visited.WritesInput vacant := .create ⟨rfl, rfl, by decide, rfl⟩
  have ran : (withVisits.resolve visited).Returns Store.client vacant
      (.node (.created "http://example.org/contacts/joe" "http://example.org/contacts/joe#joe" 0))
      (withVisits.settle Store.client vacant visited) := rfl
  obtain ⟨type, values, context, subject, input, answer, -, rereads⟩ :=
    (written_then_read .int (by decide)).2 withVisits visited vacant _ _ writes ran
  obtain rfl := Resolved.node.inj answer
  have counted : inputObject withVisits visited = .ok (countsType, counts) := rfl
  obtain ⟨rfl, rfl⟩ := Prod.mk.inj (Except.ok.inj (counted.symm.trans input))
  have writes (item : Json) (given : item ∈ [Json.int 7, .int huge]) :
      countsType.Writes counts "http://schema.org/interactionCount" .int item :=
    ⟨"visits", _, (countsType.field? "visits").getD default,
      List.mem_cons_of_mem _ (List.mem_singleton_self _), rfl, rfl, rfl,
      by simpa [writtenValues, Json.isNull] using given⟩
  obtain ⟨few, -⟩ := rereads _ (.int 7) (writes _ (by simp))
  obtain ⟨many, -⟩ := rereads _ (.int huge) (writes _ (by simp))
  obtain ⟨shown, read, fits⟩ := few.list (visits _) rfl rfl rfl rfl
  obtain ⟨shown', read', misfits⟩ := many.list (visits _) rfl rfl rfl rfl
  have same : shown = shown' := by
    have answers := Except.ok.inj (Prod.mk.inj (read.symm.trans read')).1
    exact List.map_injective_iff.2 (fun _ _ => Resolved.scalar.inj) (Resolved.list.inj answers)
  have lost : .int huge ∉ shown := fun there => absurd (misfits.1 (same ▸ there)) (by decide)
  exact ⟨_, _, ran, shown, read, fits.2 (by decide), lost⟩

/-- The integer can be written, and its literal is read as nothing. -/
theorem huge_not_read_back :
    Scalar.int.literal? (.int huge) Xsd.integer = some (.typed "9223372036854775808" Xsd.integer) ∧
    Scalar.int.read? (.literal (.typed "9223372036854775808" Xsd.integer)) = none := by
  decide

end LinkedShapes.Resolution
