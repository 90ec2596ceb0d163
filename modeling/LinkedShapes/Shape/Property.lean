import LinkedShapes.Shape.Name
import LinkedShapes.Shape.Scalar

/-!
# Property shapes

A property shape says which predicate holds the values of a property, what these values are, and
how many there may be. It is read from the triples about its node; where a predicate has several
values, the first one counts.

## Main statements

* `ofTriples?_path`: a property shape has the first path, which is an IRI.
-/

namespace LinkedShapes

open Rdf

/-- What the values of a property are. -/
inductive ValueKind where
  /-- Literals of a datatype. -/
  | scalar (scalar : Scalar) (datatype : String)
  /-- Instances of a class. -/
  | relation (cls : String)
  /-- Values that are not supported. -/
  | unsupported
  deriving DecidableEq, Inhabited

/-- A constraint on one property. -/
structure PropertyShape where
  /-- The name of the property. -/
  name : String
  /-- The predicate that holds the values. -/
  path : String
  /-- What the values are. -/
  kind : ValueKind
  /-- The minimum number of values, if it is limited. -/
  minCount : Option Nat
  /-- The maximum number of values, if it is limited. -/
  maxCount : Option Nat
  deriving DecidableEq, Inhabited

namespace PropertyShape

/-- The first object of a predicate. -/
def object? (triples : List Triple) (predicate : String) : Option Term :=
  (triples.find? fun t => t.predicate = predicate).map Triple.object

/-- The number of values that a literal sets as a limit. -/
def count? (term : Term) : Option Nat :=
  term.literal?.bind fun l => Number.readNat64? (Text.trim l.value.toList)

/-- The name of a property: the given name if it is a literal, else the local name of the path. -/
def nameOf (path : String) (given : Option Term) : String :=
  match given with
  | some (.literal l) => Shape.sanitizedName l.value
  | _ => String.ofList (Shape.sanitize (Shape.localName path.toList))

/-- What the values are, from the datatype and the class that are stated; a supported datatype
comes before a class. -/
def kindOf (datatype cls : Option Term) : ValueKind :=
  let relation : ValueKind := match cls.bind Term.iri? with
    | some c => .relation c
    | none => .unsupported
  match datatype.bind Term.iri? with
  | some d =>
    match Scalar.ofDatatype? d with
    | some s => .scalar s d
    | none => relation
  | none => relation

/-- The property shape stated by some triples; none if their path is not an IRI. -/
def ofTriples? (triples : List Triple) : Option PropertyShape :=
  ((object? triples Shacl.path).bind Term.iri?).map fun path =>
    { name := nameOf path (object? triples Shacl.name)
      path := path
      kind := kindOf (object? triples Shacl.datatype) (object? triples Shacl.valueClass)
      minCount := (object? triples Shacl.minCount).bind count?
      maxCount := (object? triples Shacl.maxCount).bind count? }

theorem ofTriples?_path {triples : List Triple} {property : PropertyShape}
    (h : ofTriples? triples = some property) :
    object? triples Shacl.path = some (.iri property.path) := by
  obtain ⟨path, hp, rfl⟩ := Option.map_eq_some_iff.1 h
  obtain ⟨term, ht, hi⟩ := Option.bind_eq_some_iff.1 hp
  rw [ht, Term.iri?_eq_some_iff.1 hi]

/-- Whether the property has a list of values: its maximum is not stated or more than one. -/
def isList (property : PropertyShape) : Bool :=
  property.maxCount.all (1 < ·)

/-- Whether the property must have a value: its minimum is more than zero. -/
def isRequired (property : PropertyShape) : Bool :=
  property.minCount.any (0 < ·)

/-- The scalar of the values, if they are literals. -/
def scalar? (property : PropertyShape) : Option Scalar :=
  match property.kind with
  | .scalar s _ => some s
  | _ => none

end PropertyShape

end LinkedShapes
