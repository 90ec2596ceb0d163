/-!
# Options

Reading the words of a command line as options with values. An option has a long name after two dashes,
and some have a letter after one dash. A value stands after an equals sign, right after the letter, or in
the next word, which then does not start with a dash; some options take all words up to the next dash.

## Main statements

* `readWords_nil`: no words give no options.
-/

namespace LinkedShapes.CommandLine

/-- Why the words of a command line are not read on. -/
inductive Stop where
  /-- Help is asked for. -/
  | help
  /-- The version is asked for. -/
  | version
  /-- The words are not those of a command. -/
  | misuse
  deriving DecidableEq, Inhabited

/-- What stands with an option. -/
inductive Arity where
  /-- No value. -/
  | none
  /-- One value. -/
  | one
  /-- One or more values, in words of their own. -/
  | many
  /-- No value; the words after it are not read. -/
  | last (stop : Stop)
  deriving DecidableEq, Inhabited

/-- An option that may be given. -/
structure OptionForm where
  /-- The long name. -/
  name : String
  /-- The letter, if there is one. -/
  letter : Option Char := none
  /-- What stands with it. -/
  arity : Arity := .one
  /-- Whether it may be given more than once. -/
  repeatable : Bool := false
  /-- Whether a text is a value of it. -/
  admits : String → Bool := fun _ => true

/-- The options that were given, in order, each with its values. -/
abbrev Given := List (String × List String)

/-- All values that were given for an option. -/
def Given.values (given : Given) (name : String) : List String :=
  (given.filter (·.1 = name)).flatMap Prod.snd

/-- What was read of some words. -/
structure Reading where
  /-- The options that were given. -/
  given : Given := []
  /-- The option that takes the next words, with the values that it has. -/
  pending : Option (OptionForm × List String) := none

namespace Reading

/-- Notes an option with its values, which must be admitted. -/
def note (reading : Reading) (form : OptionForm) (values : List String) : Except Stop Reading :=
  if !form.repeatable && reading.given.any (·.1 = form.name) then .error .misuse
  else if values.all form.admits then
    .ok { given := reading.given ++ [(form.name, values)] }
  else .error .misuse

/-- Notes the option that takes the next words, which must have a value by now. -/
def finish (reading : Reading) : Except Stop Reading :=
  match reading.pending with
  | none => .ok reading
  | some (form, values) =>
    if values.isEmpty then .error .misuse else reading.note form values

/-- Starts an option, with a value if one stands with it in the same word. -/
def start (reading : Reading) (form : OptionForm) (attached : Option String) :
    Except Stop Reading := do
  match form.arity, attached with
  | .none, none => (← reading.finish).note form []
  | .last stop, none => let _ ← reading.finish; .error stop
  | .one, some value | .many, some value => (← reading.finish).note form [value]
  | .one, none | .many, none => return { ← reading.finish with pending := some (form, []) }
  | _, _ => .error .misuse

/-- Reads letters after one dash. -/
def letters (forms : List OptionForm) (reading : Reading) : List Char → Except Stop Reading
  | [] => .ok reading
  | c :: rest =>
    match forms.find? (·.letter = some c) with
    | none => .error .misuse
    | some form =>
      match form.arity with
      | .one | .many =>
        match rest with
        | [] => reading.start form none
        | '=' :: value => reading.start form (some (String.ofList value))
        | value => reading.start form (some (String.ofList value))
      | _ => do letters forms (← reading.start form none) rest

/-- Reads a name after two dashes, with a value after an equals sign if there is one. -/
def long (forms : List OptionForm) (reading : Reading) (chars : List Char) :
    Except Stop Reading :=
  let name := String.ofList (chars.takeWhile (· ≠ '='))
  let attached := match chars.dropWhile (· ≠ '=') with
    | [] => none
    | _ :: value => some (String.ofList value)
  match forms.find? (·.name = name) with
  | none => .error .misuse
  | some form => reading.start form attached

end Reading

/-- Reads options up to the first word that is no option and no value of one. Two dashes alone end the
options; no word may follow them. -/
def readWords (forms : List OptionForm) (reading : Reading) :
    List String → Except Stop (Given × List String)
  | [] => do return ((← reading.finish).given, [])
  | word :: rest =>
    match word.toList with
    | ['-', '-'] =>
      if rest.isEmpty then do return ((← reading.finish).given, []) else .error .misuse
    | '-' :: '-' :: name => do readWords forms (← reading.long forms name) rest
    | '-' :: c :: letters => do readWords forms (← reading.letters forms (c :: letters)) rest
    | _ =>
      match reading.pending with
      | none => .ok (reading.given, word :: rest)
      | some (form, values) => do
        let reading := { reading with pending := some (form, values ++ [word]) }
        readWords forms (← if form.arity = .many then .ok reading else reading.finish) rest

theorem readWords_nil (forms : List OptionForm) : readWords forms {} [] = .ok ([], []) := rfl

end LinkedShapes.CommandLine
