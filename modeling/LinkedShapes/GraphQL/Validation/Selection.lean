import LinkedShapes.GraphQL.Validation.Site

/-!
# Rules for sites

What each site must fulfil: fields exist and are selected from as their values allow, arguments are
declared and of their types, directives stand where they may, conditions can hold, fields that are
answered under one key are alike, and variables are of types of values that are asked for.
-/

namespace LinkedShapes.GraphQL

/-- The names that stand in a list again after their first time. -/
def repetitions (names : List String) : List String :=
  (names.foldl (fun (seen, again) name =>
    if name ∈ seen then (seen, again ++ [name]) else (name :: seen, again))
    (([], []) : List String × List String)).2

namespace TypeSystem

variable (system : TypeSystem)

/-- What is wrong with a field of an object. -/
def fieldViolations (owner : NamedType) (node : FieldNode) (hasParts : Bool) : List Violation :=
  match owner.field? node.name with
  | none => [.unknownField owner.name node.name]
  | some output =>
    match system.type? output.type.name with
    | none => []
    | some type =>
      if type.isObject && !hasParts then [.nothingSelected node.name]
      else if !type.isObject && hasParts then [.partsOfLeaf node.name]
      else []

/-- The arguments that must be given and are not. -/
def missingArguments (parameters : Option (List Parameter)) (arguments : Arguments) :
    List Violation :=
  ((parameters.getD []).filter fun parameter =>
    parameter.isRequired && (arguments.find? parameter.name).isNone).map fun parameter =>
      .missingArgument parameter.name

/-- What is wrong with the value of an argument; the value of a variable is looked at if the request
gives one. -/
def valueViolations (given : List (String × Json)) (parameter : Parameter) (value : Literal) :
    List Violation :=
  let valueOf (name : String) : Option Literal := (Json.find? given name).map .ofJson
  ((value.substitute valueOf).bind fun value => system.misfit? value parameter.type).toList.map
    fun misfit => .wrongArgument (misfit.within (.member parameter.name))

/-- What is wrong with the arguments that are given after some others. -/
def argumentViolations (given : List (String × Json)) (parameters : Option (List Parameter))
    (earlier : List String) : Arguments → List Violation
  | [] => []
  | (name, value) :: rest =>
    let repeated : List Violation := if name ∈ earlier then [.repeatedArgument name] else []
    let own : List Violation := match parameters with
      | none => []
      | some parameters =>
        match parameters.find? (·.name = name) with
        | none => [.unknownArgument name]
        | some parameter => valueViolations system given parameter value
    repeated ++ own ++ argumentViolations given parameters (name :: earlier) rest

/-- The directives of one part that stand there more than once. -/
def repeatedDirectives (items : List Annotation) : List Violation :=
  let known := (items.map Annotation.name).filter fun name => (directiveType? name).isSome
  (repetitions known).map .repeatedDirective

/-- What is wrong with a directive, its arguments apart. -/
def directiveViolations (location : Location) (name : String) : List Violation :=
  match directiveType? name with
  | none => [.unknownDirective name]
  | some type => if location ∈ type.locations then [] else [.misplacedDirective name]

/-- What is wrong with a condition by itself. -/
def conditionViolations (name : String) : List Violation :=
  match system.type? name with
  | none => [.unknownType name]
  | some type => if type.isObject then [] else [.conditionOnLeaf name]

/-- What is wrong with a condition where it is used: an object has one type only. -/
def meetingViolations (within : Option NamedType) (condition : String) : List Violation :=
  match within, system.type? condition with
  | some outer, some inner => if outer.name = inner.name then [] else [.impossibleCondition condition]
  | _, _ => []

/-! ### Fields under one key -/

/-- The fields that are selected, each with the condition next to it, and the fragments that were
looked into; a fragment is looked into once. -/
def keyedFields (document : Document) : Nat → Option String → List Selection →
    List String × List (Option String × FieldNode) →
    List String × List (Option String × FieldNode)
  | 0, _, _, found => found
  | fuel + 1, condition, selections, found =>
    selections.foldl (fun found selection =>
      match selection with
      | .field node _ => (found.1, found.2 ++ [(condition, node)])
      | .inline condition _ inner => keyedFields document fuel condition inner found
      | .spread name _ =>
        match document.fragment? name with
        | none => found
        | some fragment =>
          if name ∈ found.1 then found
          else
            keyedFields document fuel (some fragment.condition) fragment.selections
              (name :: found.1, found.2)) found

/-- What sets a field apart from an earlier one under the same key. Numbers are compared by value. -/
def conflicts (earlier later : FieldNode) : List Violation :=
  let conflict := Violation.conflict earlier.key
  (if earlier.name = later.name then [] else [conflict]) ++
  (if earlier.arguments.length = later.arguments.length then [] else [conflict]) ++
  earlier.arguments.filterMap fun (name, value) =>
    if (later.arguments.find? name).map Literal.withPlainZeros == some value.withPlainZeros then none
    else some conflict

/-- The conflicts between the fields of a list, each one compared with the first one before it that has
its condition and key. -/
def keyConflicts (fields : List (Option String × FieldNode)) : List Violation :=
  (fields.foldl (fun (firsts, found) (condition, node) =>
    match firsts.find? fun first => first.1 = condition && first.2.key = node.key with
    | some first => (firsts, found ++ conflicts first.2 node)
    | none => (firsts ++ [(condition, node)], found))
    (([], []) : List (Option String × FieldNode) × List Violation)).2

mutual
/-- The number of selections in a selection. -/
def sizeOfSelection : Selection → Nat
  | .field _ inner => 1 + sizeOfSelections inner
  | .spread .. => 1
  | .inline _ _ inner => 1 + sizeOfSelections inner
/-- The number of selections in a list, at all depths. -/
def sizeOfSelections : List Selection → Nat
  | [] => 0
  | selection :: rest => sizeOfSelection selection + sizeOfSelections rest
end

/-- A bound on how deep selections are nested when each fragment is looked into once. -/
def depthBound (document : Document) (selections : List Selection) : Nat :=
  document.fragments.foldr (fun fragment bound => 1 + sizeOfSelections fragment.selections + bound)
    (1 + sizeOfSelections selections)

/-- What is wrong with the keys of selections from one object. -/
def keyViolations (document : Document) (selections : List Selection) : List Violation :=
  keyConflicts
    (keyedFields document (depthBound document selections) none selections ([], [])).2

/-! ### Variables -/

/-- What is wrong with the definition of a variable after some others. An unknown type counts twice:
it is not defined, and it is none of values that are asked for. -/
def definitionViolations (earlier : List String) (definition : VariableDefinition) :
    List Violation :=
  let repeated : List Violation :=
    if definition.name ∈ earlier then [.repeatedVariable definition.name] else []
  let ofType : List Violation := match system.type? definition.type.name with
    | none => [.outputVariable definition.name, .unknownType definition.type.name]
    | some type => if type.isInput then [] else [.outputVariable definition.name]
  let misfit? := definition.default.bind fun value => system.misfit? value definition.type
  repeated ++ ofType ++ misfit?.toList.map (.wrongDefault definition.name)

/-! ### All of a site -/

/-- What is wrong with a site. -/
def siteViolations (document : Document) (given : List (String × Json)) (site : Site) :
    List Violation :=
  let own : List Violation := match site with
    | .selections items => keyViolations document items
    | .annotated items => repeatedDirectives items
    | .field (some owner) node hasParts => system.fieldViolations owner node hasParts
    | .field none _ _ => []
    | .spread within name =>
      match document.fragment? name with
      | none => [.unknownFragment name]
      | some fragment => system.meetingViolations within fragment.condition
    | .definition condition => system.conditionViolations condition
    | .inline within (some condition) =>
      system.conditionViolations condition ++ system.meetingViolations within condition
    | .inline _ none => []
    | .directive location item => directiveViolations location item.name
    | .variableDefinition earlier definition => system.definitionViolations earlier definition
  missingArguments site.parameters? site.arguments ++ own ++
    system.argumentViolations given site.parameters? [] site.arguments

end TypeSystem

end LinkedShapes.GraphQL
