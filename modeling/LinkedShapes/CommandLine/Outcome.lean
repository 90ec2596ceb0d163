import LinkedShapes.CommandLine.Command
import LinkedShapes.CommandLine.Path
import LinkedShapes.Configuration
import LinkedShapes.GraphQL.Request
import LinkedShapes.Http.Client
import LinkedShapes.Json.Printer
import LinkedShapes.Ldp.Store
import LinkedShapes.Schema.Generation
import LinkedShapes.Schema.Text

/-!
# Outcomes of commands

What a command prints and how it ends. The files that it reads and the connection to servers are given; a
command that names containers or documents of its own answers from these alone.

## Main statements

* `run_misuse`: a command line that is no command prints nothing.
-/

namespace LinkedShapes.CommandLine

open Rdf Ldp Resolution Schema

/-- What is found at a path. -/
inductive FileState where
  /-- There is no file, or it can not be read. -/
  | missing
  /-- There is a file that is not text. -/
  | notText
  /-- There is a text. -/
  | text (content : String)
  deriving DecidableEq, Inhabited

/-- The text that is found, if one is. -/
def FileState.text? : FileState → Option String
  | .text content => some content
  | _ => none

/-- What a command runs in. -/
structure Surroundings where
  /-- What is found at each path. -/
  file : String → FileState
  /-- The text of the standard input. -/
  input : String := ""
  /-- The names that are drawn. -/
  names : Names
  /-- The connection to servers. -/
  wire : Http.Wire Unit := Http.Wire.broken

/-- Why a command fails. -/
inductive CommandError where
  /-- A path has no extension. -/
  | noExtension (path : String)
  /-- No format has an extension. -/
  | unknownExtension (extension : String)
  /-- A base is not an absolute IRI. -/
  | invalidBase (base : String)
  /-- A file of shapes can not be read. -/
  | unreadShapes (path : String)
  /-- A file of shapes is malformed. -/
  | malformedShapes (path : String)
  /-- The shapes can not be understood. -/
  | invalidShapes
  /-- There is no schema. -/
  | schema (cause : SchemaError)
  /-- There is no configuration. -/
  | configuration (path : String)
  /-- A class or a URL of the configuration is not an absolute IRI. -/
  | invalidIri (iri : String)
  /-- A fixture can not be read. -/
  | unreadFixture (path : String)
  /-- A fixture is malformed, or its URL is not valid. -/
  | malformedFixture (path url : String)
  /-- The document can not be read. -/
  | unreadQuery (path : String)
  /-- The variables are not JSON. -/
  | malformedVariables
  /-- A default in the document is of a type that is not defined. -/
  | undefinedDefault
  /-- The operation has errors. -/
  | failed (errors : Nat)
  deriving DecidableEq, Inhabited

namespace CommandError

/-- What is said of an error. -/
def message : CommandError → String
  | .noExtension path =>
    "The path " ++ path ++ " has no extension to guess a file format from"
  | .unknownExtension extension => "The file extension '" ++ extension ++ "' is unknown"
  | .invalidBase base => "Invalid base IRI " ++ base
  | .unreadShapes path => "Failed to open " ++ path
  | .malformedShapes path => "Failed to parse " ++ path
  | .invalidShapes => "Invalid shape declarations"
  | .schema cause => cause.message
  | .configuration path => "Failed to load the configuration " ++ path
  | .invalidIri iri => "Invalid IRI " ++ iri
  | .unreadFixture path => "Failed to read the fixture " ++ path
  | .malformedFixture path url => "Failed to load the fixture " ++ path ++ " as " ++ url
  | .unreadQuery path => "Failed to read the query file " ++ path
  | .malformedVariables => "The variables must be a JSON object"
  | .undefinedDefault => "The type of a default is not defined"
  | .failed errors => "The operation failed with " ++ Number.natText errors ++ " error(s)"

/-- The code that a program ends with. A schema with a repeated field and a default that can not be
judged are told apart from the other faults. -/
def code : CommandError → Nat
  | .schema (.repeatedField _) | .undefinedDefault => 101
  | _ => 1

end CommandError

/-- What is printed. -/
inductive Output where
  /-- Nothing. -/
  | nothing
  /-- A text. -/
  | text (content : String)
  /-- The answer to a request. -/
  | response (response : GraphQL.Response)

/-- How a command ends. -/
structure Outcome where
  /-- What is printed. -/
  output : Output := .nothing
  /-- Why it fails, if it does. -/
  error : Except Stop (Option CommandError) := .ok none

/-- The code that a program ends with: zero for success, help and the version, and two for misuse. -/
def Outcome.code (outcome : Outcome) : Nat :=
  match outcome.error with
  | .error .misuse => 2
  | .error _ => 0
  | .ok none => 0
  | .ok (some error) => error.code

/-! ### Shapes -/

/-- A node, whose label of a blank node is told apart from those of other files by the number of the
file. -/
def ownNode (file : Nat) : Node → Node
  | .blank label => .blank (label ++ "." ++ Number.natText file)
  | node => node

/-- A term with the nodes of a file. -/
def ownTerm (file : Nat) : Term → Term
  | .node node => .node (ownNode file node)
  | term => term

/-- A triple with the nodes of a file. -/
def ownTriple (file : Nat) (triple : Triple) : Triple :=
  ⟨ownNode file triple.subject, triple.predicate, ownTerm file triple.object⟩

/-- The triples of a file of shapes; `number` counts the files. -/
def readShapes (surroundings : Surroundings) (base : Option String) (number : Nat) (path : String) :
    Except CommandError (List Triple) := do
  let some extension := Path.extension? path | throw (.noExtension path)
  let some format := Format.ofExtension? extension | throw (.unknownExtension extension)
  if let some base := base then
    unless Iri.isAbsolute base do throw (.invalidBase base)
  match surroundings.file path with
  | .missing => throw (.unreadShapes path)
  | .notText => throw (.malformedShapes path)
  | .text content =>
    match format.read? base 0 content with
    | none => throw (.malformedShapes path)
    | some (triples, _) => return triples.map (ownTriple number)

/-- The schema of some shapes. -/
def schemaOf (surroundings : Surroundings) (shapes : ShapeSource) :
    Except CommandError Definition := do
  let files ← shapes.paths.zipIdx.mapM fun (path, number) =>
    readShapes surroundings shapes.base number path
  let index ← (ShapeIndex.ofTriples files.flatten).mapError fun _ => .invalidShapes
  (Definition.ofIndex index).mapError .schema

/-! ### Queries and mutations -/

/-- The configuration at a path. -/
def configurationOf (surroundings : Surroundings) (path : Option String) :
    Except CommandError Configuration :=
  match path with
  | none => .ok {}
  | some path =>
    match surroundings.file path with
    | .text content => (Configuration.read content).mapError fun _ => .configuration path
    | _ => .error (.configuration path)

/-- The store of some containers and fixtures. -/
def storeOf (surroundings : Surroundings) (command : QueryCommand) : Except CommandError Store :=
  command.fixtures.foldlM (fun store (url, path) =>
    match (surroundings.file path).text? with
    | none => .error (.unreadFixture path)
    | some content => (store.load url content).mapError fun _ => .malformedFixture path url)
    (command.containers.foldl Store.addContainer Store.empty)

/-- What is wrong with the targets of a configuration. -/
def ofConfiguration (path : Option String) : ConfigurationError → CommandError
  | .invalidIri iri => .invalidIri iri
  | _ => .configuration (path.getD "")

/-- The request that a command makes. -/
def requestOf (surroundings : Surroundings) (command : QueryCommand) :
    Except CommandError GraphQL.Request := do
  let query ← match command.query with
    | none => pure surroundings.input
    | some path =>
      match (surroundings.file path).text? with
      | none => throw (.unreadQuery path)
      | some content => pure content
  let bindings ← match command.bindings with
    | none => pure []
    | some text =>
      match Json.read? text with
      | none => throw .malformedVariables
      | some value => pure (value.canonical.object?.getD [])
  return { query, operation := command.operation, bindings }

/-- The answer to a request, and the source of names after it. -/
def respond {σ : Type} (client : Client σ) (resources : σ) (names : Names) (resolver : Resolver)
    (system : GraphQL.TypeSystem) (request : GraphQL.Request) : GraphQL.Response × Names :=
  let world : World σ := { resources, names }
  let (response, world) := (system.respond resolver request).run client world
  (response, world.names)

/-- The answer to a query or mutation, and the source of names after it. -/
def answer (surroundings : Surroundings) (command : QueryCommand) :
    Except CommandError (GraphQL.Response × Names) := do
  let definition ← schemaOf surroundings command.shapes
  let configuration ← configurationOf surroundings command.configuration
  let isLocal := !(command.fixtures.isEmpty && command.containers.isEmpty)
  let store ← if isLocal then storeOf surroundings command else pure Store.empty
  let targets ← configuration.targetTable.mapError (ofConfiguration command.configuration)
  let system ← (GraphQL.TypeSystem.ofDefinition definition).mapError .schema
  let request ← requestOf surroundings command
  let resolver : Resolver := { definition, target? := targets.find? }
  let (response, names) :=
    if isLocal then respond Store.client store surroundings.names resolver system request
    else
      respond (Http.client surroundings.wire configuration.redirectionLimit) ()
        surroundings.names resolver system request
  if .undefinedDefault ∈ response.errors then throw .undefinedDefault
  return (response, names)

/-! ### Commands -/

/-- The outcome of a command, and the source of names after it. -/
def Command.run (surroundings : Surroundings) (command : Command) : Outcome × Names :=
  match command with
  | .schema shapes =>
    match schemaOf surroundings shapes with
    | .error error => ({ error := .ok (some error) }, surroundings.names)
    | .ok definition => ({ output := .text definition.text }, surroundings.names)
  | .query command =>
    match answer surroundings command with
    | .error error => ({ error := .ok (some error) }, surroundings.names)
    | .ok (response, names) =>
      let error : Option CommandError :=
        if response.errors.isEmpty then none else some (.failed response.errors.length)
      ({ output := .response response, error := .ok error }, names)

/-- The version. -/
def versionText : String := "shapeql 0.1.0\n"

/-- The help. -/
def helpText : String := String.intercalate "\n"
  ["Shapeql GraphQL schema generator and LDP resolver", "",
   "Usage: shapeql [OPTIONS] <COMMAND>", "",
   "Commands:",
   "  schema  Print the GraphQL schema generated from SHACL shapes",
   "  query   Execute a GraphQL operation against LDP resources and print the JSON response",
   "  help    Print this message or the help of the given subcommand(s)", "",
   "Options of schema and query:",
   "  -s, --shapes <SHAPES>...  File(s) holding the SHACL node shapes",
   "      --base <BASE>         Base IRI of the shape files", "",
   "Options of query:",
   "  -c, --config <CONFIG>     JSON configuration file with the class targets",
   "  -q, --query <QUERY>       File holding the GraphQL operation, instead of stdin",
   "      --operation-name <OPERATION_NAME>",
   "                            Name of the operation to execute",
   "      --variables <VARIABLES>",
   "                            Variables of the operation as a JSON object",
   "      --fixture <FIXTURE>   Seed the in-memory store with a document, as URL=FILE",
   "      --container <CONTAINER>",
   "                            Declare a container of the in-memory store", "",
   "Options:",
   "      --json-logs  Write the logs as JSON lines instead of human readable text",
   "  -h, --help       Print help",
   "  -V, --version    Print version", ""]

/-- The outcome of a command line, and the source of names after it. -/
def run (surroundings : Surroundings) (words : List String) : Outcome × Names :=
  match Command.read words with
  | .ok command => command.run surroundings
  | .error stop =>
    let output : Output := match stop with
      | .help => .text helpText
      | .version => .text versionText
      | .misuse => .nothing
    ({ output, error := .error stop }, surroundings.names)

theorem run_misuse (surroundings : Surroundings) {words : List String}
    (h : Command.read words = .error .misuse) :
    (run surroundings words).1.output = .nothing := by
  simp [run, h]

end LinkedShapes.CommandLine
