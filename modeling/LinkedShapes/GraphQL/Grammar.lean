import LinkedShapes.GraphQL.Document
import LinkedShapes.GraphQL.Lexis

/-!
# Reading documents

The grammar of executable documents. Parts that hold parts of their own kind are read to a depth that
is given; the length of the document bounds the depth, as each level has a bracket of its own.
-/

namespace LinkedShapes.GraphQL

namespace Reader

/-- Reads a variable. -/
def variableName : Reader String := do
  word "$"
  name

/-- Reads a reference to a type. No blanks stand within one. -/
def typeHere : Nat → Reader TypeRef
  | 0 => failure
  | depth + 1 => do
    let type ← (return .named (← nameHere)) <|> (do
      exactly ['[']
      let item ← typeHere depth
      exactly [']']
      return .list item)
    if ← accepts (exactly ['!']) then return .nonNull type else return type

/-- Reads a reference to a type. -/
def typeRef : Reader TypeRef := do
  toWord
  typeHere ((← get).length + 1)

/-- Reads a value without parts: not a list and not an object. A constant is not a variable. -/
def scalar (constant : Bool) : Reader Literal :=
  (if constant then failure else return .var (← variableName)) <|>
  number <|>
  (return .string (← text)) <|>
  (do word "true"; return .bool true) <|>
  (do word "false"; return .bool false) <|>
  (do word "null"; return .null) <|>
  (return .symbol (← name))

/-- Reads a value. -/
def literal (constant : Bool) : Nat → Reader Literal
  | 0 => failure
  | depth + 1 =>
    scalar constant <|>
    (do
      word "["
      let items ← many (literal constant depth)
      word "]"
      return .list items) <|>
    (do
      word "\x7b"
      let members ← many (do
        let key ← name
        word ":"
        return (key, ← literal constant depth))
      word "\x7d"
      return .ofEntries members)

/-- Reads a value. -/
def value (constant : Bool) : Reader Literal := do literal constant ((← get).length + 1)

/-- Reads the arguments of a field or a directive; there may be none. -/
def arguments (constant : Bool) : Reader Arguments :=
  (do
    word "("
    let read ← atLeastOne (do
      let key ← name
      word ":"
      return (key, ← value constant))
    word ")"
    return read) <|>
  return []

/-- Reads directives; there may be none. -/
def directives (constant : Bool) : Reader (List Annotation) :=
  many do
    word "@"
    let called ← name
    return ⟨called, ← arguments constant⟩

/-- Reads the condition that an object is of a type. -/
def condition : Reader String := do
  wholeWord "on"
  name

/-- Reads selections between braces. -/
def selections : Nat → Reader (List Selection)
  | 0 => failure
  | depth + 1 => do
    word "\x7b"
    let read ← atLeastOne (field depth <|> inline depth <|> spread)
    word "\x7d"
    return read
where
  /-- Reads a field with what is selected of its value. -/
  field (depth : Nat) : Reader Selection := do
    let label ← optional (do
      let label ← name
      word ":"
      return label)
    let called ← name
    let given ← arguments false
    let noted ← directives false
    let inner ← optional (selections depth)
    return .field ⟨label, called, given, noted⟩ (inner.getD [])
  /-- Reads selections with a condition. -/
  inline (depth : Nat) : Reader Selection := do
    word "..."
    let type ← optional condition
    let noted ← directives false
    return .inline type noted (← selections depth)
  /-- Reads the name of a fragment; a condition is no name. -/
  spread : Reader Selection := do
    word "..."
    if (condition.run (← get)).isSome then failure
    let called ← name
    return .spread called (← directives false)

/-- Reads the selections of an operation or a fragment. -/
def body : Reader (List Selection) := do selections ((← get).length + 1)

/-- Reads a variable of an operation, with its type, directives and default. -/
def variableDefinition : Reader VariableDefinition := do
  let called ← variableName
  word ":"
  let type ← typeRef
  let noted ← directives true
  let default ← optional (do word "="; value true)
  return ⟨called, type, noted, default⟩

/-- Reads what an operation is for. -/
def operationKind : Reader OperationKind :=
  (do word "query"; return .query) <|>
  (do word "mutation"; return .mutation) <|>
  (do word "subscription"; return .subscription)

/-- Reads an operation. -/
def operation : Reader Operation :=
  (do
    let kind ← operationKind
    let called ← optional name
    let definitions ← optional (do
      word "("
      let read ← many variableDefinition
      word ")"
      return read)
    let noted ← directives false
    return ⟨kind, called, definitions.getD [], noted, ← body⟩) <|>
  (return { selections := ← body })

/-- Reads a fragment. -/
def fragment : Reader Fragment := do
  word "fragment"
  let called ← name
  let type ← condition
  let noted ← directives false
  return ⟨called, type, noted, ← body⟩

/-- Reads operations and fragments up to the end. -/
def document : Reader Document := do
  let definitions ← atLeastOne ((.inl <$> operation) <|> (.inr <$> fragment))
  toWord
  if !(← get).isEmpty then failure
  return {
    operations := definitions.filterMap Sum.getLeft?
    fragments := definitions.filterMap Sum.getRight? }

end Reader

/-- The document that a text writes; none if the text is not one, or its definitions do not go
together. -/
def Document.read? (text : String) : Option Document := do
  let (document, _) ← Reader.document text.toList
  if document.isCoherent then some document else none

end LinkedShapes.GraphQL
