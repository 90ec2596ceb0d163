import LinkedShapes.GraphQL.Validation.Violation

/-!
# Sites

The places of an operation or a fragment that the rules for documents look at, each with the type of
the objects that are selected from there, where it is known. They stand in the order in which their
violations are told.
-/

namespace LinkedShapes.GraphQL

/-- A place that rules look at. -/
inductive Site where
  /-- Selections from one object. -/
  | selections (items : List Selection)
  /-- A part with directives. -/
  | annotated (items : List Annotation)
  /-- A field of an object, and whether anything is selected of its value. -/
  | field (owner : Option NamedType) (node : FieldNode) (hasParts : Bool)
  /-- A fragment that is used. -/
  | spread (within : Option NamedType) (name : String)
  /-- A fragment that is defined with a condition. -/
  | definition (condition : String)
  /-- Selections with a condition. -/
  | inline (within : Option NamedType) (condition : Option String)
  /-- A directive. -/
  | directive (location : Location) (item : Annotation)
  /-- A variable that is defined, and the names of those before it. -/
  | variableDefinition (earlier : List String) (definition : VariableDefinition)

/-- The sites of an operation or a fragment. -/
abbrev Scope := List Site

namespace TypeSystem

variable (system : TypeSystem)

/-- The type of the values of a field. -/
def valueType? (owner : Option NamedType) (field : String) : Option NamedType := do
  let owner ← owner
  let output ← owner.field? field
  system.type? output.type.name

/-- The sites of the directives of one part. -/
def directiveSites (location : Location) (items : List Annotation) : List Site :=
  items.map (.directive location)

mutual
/-- The sites of a selection from an object. The name of the type of the object can always be
selected, so that field is no site. -/
def sitesOf (within : Option NamedType) : Selection → List Site
  | .field node inner =>
    if node.name = typeNameField then []
    else
      .annotated node.directives :: .field within node (!inner.isEmpty) ::
        directiveSites .field node.directives ++
        .selections inner :: sitesOfEach (system.valueType? within node.name) inner
  | .spread name directives =>
    .annotated directives :: .spread within name :: directiveSites .fragmentSpread directives
  | .inline condition directives inner =>
    let type := match condition with
      | some name => system.type? name
      | none => within
    .annotated directives :: .inline within condition ::
      directiveSites .inlineFragment directives ++
      .selections inner :: sitesOfEach type inner
/-- The sites of selections from an object. -/
def sitesOfEach (within : Option NamedType) : List Selection → List Site
  | [] => []
  | selection :: rest => sitesOf within selection ++ sitesOfEach within rest
end

/-- Where the directives of an operation stand. -/
def locationOf : OperationKind → Location
  | .query => .query
  | .mutation => .mutation
  | .subscription => .subscription

/-- The sites of variables that are defined after some others. -/
def definitionSites (earlier : List String) : List VariableDefinition → List Site
  | [] => []
  | definition :: rest =>
    .annotated definition.directives :: .variableDefinition earlier definition ::
      definitionSites (definition.name :: earlier) rest

/-- The sites of an operation. An operation without a root is not looked into. -/
def operationScope (operation : Operation) : Scope :=
  match system.root? operation.kind with
  | none => [.annotated operation.directives]
  | some root =>
    .annotated operation.directives :: definitionSites [] operation.definitions ++
      directiveSites (locationOf operation.kind) operation.directives ++
      .selections operation.selections :: system.sitesOfEach (system.type? root) operation.selections

/-- The sites of a fragment. -/
def fragmentScope (fragment : Fragment) : Scope :=
  .annotated fragment.directives :: .definition fragment.condition ::
    directiveSites .fragmentDefinition fragment.directives ++
    .selections fragment.selections ::
      system.sitesOfEach (system.type? fragment.condition) fragment.selections

end TypeSystem

namespace Site

/-- The fragment that is used at a site. -/
def spread? : Site → Option String
  | spread _ name => some name
  | _ => none

/-- The arguments that are given at a site. -/
def arguments : Site → Arguments
  | field _ node _ => node.arguments
  | directive _ item => item.arguments
  | _ => []

/-- The arguments that may be given at a site; they are known for fields and directives that
exist. -/
def parameters? : Site → Option (List Parameter)
  | field owner node _ => (owner.bind (NamedType.field? · node.name)).map OutputField.parameters
  | directive _ item => (directiveType? item.name).map DirectiveType.parameters
  | _ => none

end Site

namespace Scope

/-- The fragments that are used, in order. -/
def spreads (scope : Scope) : List String := scope.filterMap Site.spread?

/-- The names of the variables that are used, each one once. -/
def variableNames (scope : Scope) : List String :=
  (scope.flatMap fun site => site.arguments.flatMap fun argument => argument.2.variableNames).eraseDups

end Scope

end LinkedShapes.GraphQL
