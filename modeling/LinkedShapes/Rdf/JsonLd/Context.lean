import LinkedShapes.Iri.Resolution
import LinkedShapes.Json.Value

/-!
# Contexts of JSON-LD

A context says what the names of members and the texts of a document stand for: terms with IRIs, a
vocabulary for all other names, a base for references, and a language for texts. A context in a document
adds to the one around it; one that is to be fetched from elsewhere is refused.
-/

namespace LinkedShapes.Rdf.JsonLd

/-- What a term of a context stands for. -/
structure TermDefinition where
  /-- The IRI or keyword; none if members of this name are left out. -/
  iri : Option String
  /-- Whether the values of the member are what is described, and what holds the member is a value. -/
  reversed : Bool := false
  /-- What the values are taken for: a datatype or a keyword. -/
  coercion : Option String := none
  /-- The language of texts, where it is said; it may be said that there is none. -/
  language : Option (Option String) := none
  /-- How several values are held together. -/
  containers : List String := []
  /-- Whether the term may start compact IRIs. -/
  isPrefix : Bool := false
  /-- The context that holds within the values. -/
  scope : Option Json := none
  deriving Inhabited

/-- What names and texts stand for. -/
structure Context where
  /-- The base of references. -/
  base : Option String
  /-- What names that are no terms are put behind. -/
  vocabulary : Option String := none
  /-- The language of texts. -/
  language : Option String := none
  /-- The terms, the latest first. -/
  terms : List (String × TermDefinition) := []
  deriving Inhabited

/-- The keywords. -/
def keywords : List String :=
  ["@base", "@container", "@context", "@direction", "@graph", "@id", "@import", "@included",
   "@index", "@json", "@language", "@list", "@nest", "@none", "@prefix", "@propagate",
   "@protected", "@reverse", "@set", "@type", "@value", "@version", "@vocab"]

/-- Whether a text is a keyword. -/
def isKeyword (text : String) : Bool := text ∈ keywords

/-- Whether a text has the form of a keyword. -/
def looksLikeKeyword (text : String) : Bool :=
  match text.toList with
  | '@' :: c :: rest => (c :: rest).all Char.isAlpha
  | _ => false

/-- Whether a text is the label of a blank node. -/
def isBlankLabel (text : String) : Bool := "_:".toList.isPrefixOf text.toList

/-- Whether a text names a resource. -/
def isResource (text : String) : Bool := isBlankLabel text || Iri.isAbsolute text

/-- The parts of a text before and behind its first colon, if it does not start with one. -/
def splitCompact (text : String) : Option (String × String) :=
  match text.toList.takeWhile (· ≠ ':'), text.toList.dropWhile (· ≠ ':') with
  | [], _ => none
  | before, _ :: behind => some (String.ofList before, String.ofList behind)
  | _, [] => none

namespace Context

/-- The definition of a term. -/
def term? (context : Context) (term : String) : Option TermDefinition :=
  (context.terms.find? (·.1 = term)).map Prod.snd

/-- A reference resolved against the base, if there is one and the reference is well formed. -/
def resolve (context : Context) (reference : String) : String :=
  (context.base.bind (Iri.resolve? · reference)).getD reference

/-- What a text stands for: a keyword, an IRI, the label of a blank node, or, where it can not be made
an IRI, itself; none if it stands for nothing. In the places of names (`name`) terms and the vocabulary
count, in the places of references (`reference`) the base does. -/
def expand (context : Context) (name reference : Bool) (text : String) : Option String :=
  let placed :=
    match context.vocabulary with
    | some vocabulary =>
      if name then vocabulary ++ text else if reference then context.resolve text else text
    | none => if reference then context.resolve text else text
  if isKeyword text then some text
  else if looksLikeKeyword text then none
  else
    match if name then context.term? text else none with
    | some definition => definition.iri
    | none =>
      match splitCompact text with
      | none => some placed
      | some (before, behind) =>
        if before = "_" || "//".toList.isPrefixOf behind.toList then some text
        else
          match context.term? before with
          | some { iri := some start, isPrefix := true, .. } => some (start ++ behind)
          | _ => some (if Iri.isAbsolute text then text else placed)

end Context

/-! ### Definitions of terms -/

/-- Whether an IRI that ends with a character may start compact IRIs. -/
def isDelimiter (c : Char) : Bool := c ∈ [':', '/', '?', '#', '[', ']', '@']

/-- The texts of a value that is a text or a list of texts. -/
def texts? : Json → Option (List String)
  | .string text => some [text]
  | .array items => items.mapM Json.string?
  | _ => none

/-- The language that a value says: a tag in lower case, or that there is none. -/
def language? : Json → Option (Option String)
  | .null => some none
  | .string tag => some (some (String.ofList (tag.toList.map Char.toLower)))
  | _ => none

/-- What is known while the terms of a context are defined. -/
structure Definitions where
  /-- The context so far. -/
  context : Context
  /-- The terms that are defined. -/
  done : List String

/-- A reader of definitions. -/
abbrev Definer := StateT Definitions Option

namespace Definer

/-- The members of the definition of a term; a text says the IRI alone. -/
def membersOf : Json → Option (List (String × Json))
  | .null => some [("@id", .null)]
  | .string iri => some [("@id", .string iri)]
  | .object members => some members
  | _ => none

/-- Puts the definition of a term into the context. -/
def conclude (term : String) (definition : Option TermDefinition) : Definer Unit :=
  modify fun known =>
    let others := known.context.terms.filter (·.1 ≠ term)
    let terms := match definition with
      | some definition => (term, definition) :: others
      | none => others
    { context := { known.context with terms }, done := term :: known.done }

/-- Defines a term by its member of a context, and before it the terms that it is defined by; `path`
holds the terms that wait for this one. Terms that are defined by each other are refused, and more of
them than there are members can not wait. -/
def define (members : List (String × Json)) : Nat → List String → String → Definer Unit
  | 0, _, _ => failure
  | fuel + 1, path, term => do
    if term ∈ (← get).done then return
    match Json.find? members term with
    | none => return
    | some value =>
      if term = "@type" && value.object?.isSome then return
      if term ∈ path || term = "" || isKeyword term then failure
      let own ← StateT.lift (membersOf value)
      let before (text : String) : Definer Unit := do
        if text ≠ term then define members fuel (term :: path) text
      let expanded (text : String) : Definer (Option String) := do
        before text
        match splitCompact text with
        | some (start, _) => before start
        | none => pure ()
        return (← get).context.expand true false text
      let ofName : Definer String := do
        match splitCompact term with
        | some (start, behind) =>
          before start
          match (← get).context.term? start with
          | some { iri := some iri, .. } => return iri ++ behind
          | _ => return term
        | none =>
          match (← get).context.vocabulary with
          | some vocabulary => return vocabulary ++ term
          | none => failure
      let coercion ← match Json.find? own "@type" with
        | none => pure none
        | some (.string text) =>
          match ← expanded text with
          | some iri =>
            if iri ∈ ["@id", "@vocab", "@json", "@none"] || Iri.isAbsolute iri then pure (some iri)
            else failure
          | none => failure
        | some _ => failure
      let language ← match Json.find? own "@language" with
        | none => pure none
        | some value => some <$> StateT.lift (language? value)
      let containers ← match Json.find? own "@container" with
        | none | some .null => pure []
        | some value => StateT.lift (texts? value)
      let scope := Json.find? own "@context"
      if looksLikeKeyword term then conclude term none
      else
        match Json.find? own "@reverse", Json.find? own "@id" with
        | some (.string text), none =>
          match ← expanded text with
          | some iri =>
            if isResource iri then
              conclude term (some { iri := some iri, reversed := true, coercion, language,
                                    containers, scope })
            else failure
          | none => failure
        | some _, _ => failure
        | none, some .null => conclude term (some { iri := none })
        | none, some (.string text) =>
          if text = term then
            conclude term (some { iri := some (← ofName), coercion, language, containers, scope })
          else
            match ← expanded text with
            | none => conclude term none
            | some iri =>
              if !((isKeyword iri && iri ≠ "@context") || isResource iri) then failure
              let isSimple := value.string?.isSome && !term.toList.any (· ∈ [':', '/'])
              let mayStart := isSimple && iri.toList.getLast?.any isDelimiter
              let isPrefix := match Json.find? own "@prefix" with
                | some (.bool chosen) => chosen
                | _ => mayStart
              conclude term (some { iri := some iri, coercion, language, containers, isPrefix,
                                    scope })
        | none, some _ => failure
        | none, none =>
          conclude term (some { iri := some (← ofName), coercion, language, containers, scope })

end Definer

namespace Context

/-- The members of a context that define no terms. -/
def settings : List String :=
  ["@base", "@direction", "@import", "@language", "@propagate", "@protected", "@version", "@vocab"]

/-- The context with the base that is set. -/
def withBase? (context : Context) : Json → Option Context
  | .null => some { context with base := none }
  | .string text =>
    if Iri.isAbsolute text then some { context with base := text }
    else (context.base.bind (Iri.resolve? · text)).map fun base => { context with base }
  | _ => none

/-- The context with the vocabulary that is set. -/
def withVocabulary? (context : Context) : Json → Option Context
  | .null => some { context with vocabulary := none }
  | .string text =>
    (context.expand true true text).bind fun vocabulary =>
      if isResource vocabulary || text = "" then some { context with vocabulary } else none
  | _ => none

/-- The context with the settings and terms of some members. -/
def withMembers? (context : Context) (members : List (String × Json)) : Option Context := do
  if (Json.find? members "@import").isSome then none
  let set (name : String) (change : Context → Json → Option Context) (context : Context) :
      Option Context :=
    match Json.find? members name with
    | none => some context
    | some value => change context value
  let context ← set "@base" withBase? context
  let context ← set "@vocab" withVocabulary? context
  let context ← set "@language" (fun context value =>
    (language? value).map fun language => { context with language }) context
  let terms := (members.map Prod.fst).filter (· ∉ settings)
  let define := terms.forM (Definer.define members (members.length + 1) [])
  let (_, known) ← define.run ⟨context, []⟩
  return known.context

/-- The context with what one or several contexts in a document add to it, where `base` is the base of
the document; none if one of them is malformed or to be fetched. -/
def extend? (base : Option String) (context : Context) (added : Json) : Option Context :=
  let one (context : Context) : Json → Option Context
    | .null => some { base }
    | .object members => context.withMembers? members
    | _ => none
  match added with
  | .array items => items.foldlM one context
  | added => one context added

end Context

end LinkedShapes.Rdf.JsonLd
