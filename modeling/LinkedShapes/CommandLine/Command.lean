import LinkedShapes.CommandLine.Options

/-!
# Commands

What a command line asks for: the schema of some shapes, the answer to a query or mutation, help, or the
version.

## Main statements

* `read_nil`: a command line without words is misuse.
-/

namespace LinkedShapes.CommandLine

/-- The files of shapes, and the base of the IRIs in them. -/
structure ShapeSource where
  /-- The paths of the files. -/
  paths : List String
  /-- The base, if there is one. -/
  base : Option String := none
  deriving DecidableEq, Inhabited

/-- What is needed to answer a query or mutation. -/
structure QueryCommand where
  /-- The shapes. -/
  shapes : ShapeSource
  /-- The path of the configuration, if there is one. -/
  configuration : Option String := none
  /-- The path of the document, if it is not read from the standard input. -/
  query : Option String := none
  /-- The name of the operation. -/
  operation : Option String := none
  /-- The values of the variables, as JSON. -/
  bindings : Option String := none
  /-- The documents of the store, each with its URL and the path of its file. -/
  fixtures : List (String × String) := []
  /-- The URLs of the containers of the store. -/
  containers : List String := []
  deriving DecidableEq, Inhabited

/-- A command. -/
inductive Command where
  /-- Prints the schema of shapes. -/
  | schema (shapes : ShapeSource)
  /-- Answers a query or mutation. -/
  | query (request : QueryCommand)
  deriving DecidableEq, Inhabited

/-- The paths of the files that a command reads. -/
def Command.paths : Command → List String
  | .schema shapes => shapes.paths
  | .query request =>
    request.shapes.paths ++ request.configuration.toList ++ request.fixtures.map Prod.snd ++
      request.query.toList

/-! ### Forms -/

/-- The option that asks for help. -/
def helpForm : OptionForm := { name := "help", letter := some 'h', arity := .last .help }

/-- The option that asks for logs in JSON. -/
def logsForm : OptionForm := { name := "json-logs", arity := .none }

/-- Whether a text can be the path of a file. -/
def isPath (text : String) : Bool := !text.isEmpty

/-- The URL and the path that a fixture is given by: they stand before and after the first equals
sign. -/
def fixture? (text : String) : Option (String × String) :=
  let url := text.toList.takeWhile (· ≠ '=')
  let path := (text.toList.dropWhile (· ≠ '=')).drop 1
  if url.isEmpty || path.isEmpty then none else some (String.ofList url, String.ofList path)

/-- The options before the name of a command. -/
def outerForms : List OptionForm :=
  [helpForm, logsForm, { name := "version", letter := some 'V', arity := .last .version }]

/-- The options of shapes. -/
def shapeForms : List OptionForm :=
  [helpForm, logsForm,
   { name := "shapes", letter := some 's', arity := .many, repeatable := true, admits := isPath },
   { name := "base" }]

/-- The options of queries and mutations. -/
def queryForms : List OptionForm :=
  shapeForms ++
  [{ name := "config", letter := some 'c', admits := isPath },
   { name := "query", letter := some 'q', admits := isPath },
   { name := "operation-name" },
   { name := "variables" },
   { name := "fixture", repeatable := true, admits := fun text => (fixture? text).isSome },
   { name := "container", repeatable := true }]

/-! ### Reading -/

/-- The options of a command, after which no words may stand. -/
def readOptions (forms : List OptionForm) (words : List String) : Except Stop Given := do
  match ← readWords forms {} words with
  | (given, []) => return given
  | _ => .error .misuse

/-- The shapes that some options name; there must be a file. -/
def shapesOf (given : Given) : Except Stop ShapeSource :=
  match given.values "shapes" with
  | [] => .error .misuse
  | paths => .ok { paths, base := (given.values "base").head? }

/-- The query or mutation that some options ask for. -/
def queryOf (given : Given) : Except Stop QueryCommand := do
  return {
    shapes := ← shapesOf given
    configuration := (given.values "config").head?
    query := (given.values "query").head?
    operation := (given.values "operation-name").head?
    bindings := (given.values "variables").head?
    fixtures := (given.values "fixture").filterMap fixture?
    containers := given.values "container" }

/-- The command that the words of a command line ask for. -/
def Command.read (words : List String) : Except Stop Command := do
  match (← readWords outerForms {} words).2 with
  | "schema" :: words => return .schema (← shapesOf (← readOptions shapeForms words))
  | "query" :: words => return .query (← queryOf (← readOptions queryForms words))
  | ["help"] => .error .help
  | ["help", topic] =>
    .error (if topic ∈ ["schema", "query", "help"] then .help else .misuse)
  | _ => .error .misuse

theorem Command.read_nil : Command.read [] = .error .misuse := rfl

end LinkedShapes.CommandLine
