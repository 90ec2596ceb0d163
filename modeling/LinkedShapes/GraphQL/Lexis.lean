import LinkedShapes.GraphQL.Literal
import LinkedShapes.Json.Reader

/-!
# Words of documents

The words that documents are made of: marks, keywords, names, numbers and texts. Blanks, commas and
comments may stand between any two words. A keyword need not be parted from the name after it.

## Main statements

* `head_skipIgnored`: what is left after blanks does not start with one.
-/

namespace LinkedShapes.GraphQL

/-- A reader of a part of a document. -/
abbrev Reader := StateT (List Char) Option

/-- Whether a character is a blank between words. -/
def isIgnored (c : Char) : Bool :=
  c = ' ' || c = '\t' || c = '\n' || c = '\r' || c = ',' || c = '\ufeff'

/-- The text from its first word, where the start of the text may be in a comment. -/
def skipIgnored (comment : Bool) : List Char → List Char
  | [] => []
  | c :: rest =>
    if comment then skipIgnored (c ≠ '\n' && c ≠ '\r') rest
    else if isIgnored c then skipIgnored false rest
    else if c = '#' then skipIgnored true rest
    else c :: rest

theorem head_skipIgnored {comment : Bool} {input rest : List Char} {c : Char}
    (h : skipIgnored comment input = c :: rest) : isIgnored c = false ∧ c ≠ '#' := by
  induction input generalizing comment with
  | nil => simp [skipIgnored] at h
  | cons d input ih =>
    simp only [skipIgnored] at h
    split at h
    · exact ih h
    · split at h
      · exact ih h
      · next blank =>
        split at h
        · exact ih h
        · next noComment =>
          obtain ⟨rfl, -⟩ := List.cons.inj h
          exact ⟨by simpa using blank, noComment⟩

/-- Whether a name may start with a character. -/
def isNameStart (c : Char) : Bool := c.isAlpha || c = '_'

/-- Whether a character may stand in a name. -/
def isNameChar (c : Char) : Bool := isNameStart c || c.isDigit

namespace Reader

variable {α : Type}

/-- Goes on at the next word. -/
def toWord : Reader Unit := modify (skipIgnored false)

/-- Reads characters that must come next. -/
def exactly (word : List Char) : Reader Unit := do
  let input ← get
  if word.isPrefixOf input then set (input.drop word.length) else failure

/-- Reads a mark or a keyword. -/
def word (text : String) : Reader Unit := do toWord; exactly text.toList

/-- Reads a keyword that no character of a name follows. -/
def wholeWord (text : String) : Reader Unit := do
  word text
  if (← get).head?.any isNameChar then failure

/-- Whether a part comes next, which is then read. -/
def accepts (part : Reader Unit) : Reader Bool :=
  (do part; return true) <|> return false

/-- Reads a part if it comes next. -/
def optional (part : Reader α) : Reader (Option α) :=
  (do return some (← part)) <|> return none

/-- Reads a part as often as it comes, at most a number of times. -/
def upTo (part : Reader α) : Nat → Reader (List α)
  | 0 => return []
  | n + 1 => (do
      let first ← part
      let rest ← upTo part n
      return first :: rest) <|> return []

/-- Reads a part as often as it comes. As the part uses up a character each time, it comes no more
often than there are characters. -/
def many (part : Reader α) : Reader (List α) := do upTo part (← get).length

/-- Reads a part as often as it comes, once at least. -/
def atLeastOne (part : Reader α) : Reader (List α) := do
  let first ← part
  let rest ← many part
  return first :: rest

/-- Reads the characters of a class up to the first one that is not. -/
def charsOf (inClass : Char → Bool) : Reader (List Char) := do
  let input ← get
  set (input.dropWhile inClass)
  return input.takeWhile inClass

/-- Reads a name where it starts here. -/
def nameHere : Reader String := do
  match (← get).head? with
  | some c => if isNameStart c then return String.ofList (← charsOf isNameChar) else failure
  | none => failure

/-- Reads a name. -/
def name : Reader String := do toWord; nameHere

/-- Reads decimal digits, one at least. -/
def digits : Reader (List Char) := do
  let read ← charsOf Char.isDigit
  if read.isEmpty then failure else return read

/-- Reads the whole part of a number: a zero, or digits that do not start with one. -/
def wholePart : Reader (List Char) := do
  match (← get) with
  | '0' :: rest => set rest; return ['0']
  | _ => digits

/-- Reads the fraction of a number. -/
def fraction : Reader (List Char) := do
  exactly ['.']
  return '.' :: (← digits)

/-- Reads the exponent of a number. -/
def exponent : Reader (List Char) := do
  exactly ['e'] <|> exactly ['E']
  let sign ← optional (exactly ['-'])
  if sign.isNone then let _ ← optional (exactly ['+'])
  return 'e' :: ((if sign.isSome then ['-'] else []) ++ (← digits))

/-- Reads a number, which no name may follow. -/
def number : Reader Literal := do
  toWord
  let sign ← optional (exactly ['-'])
  let whole ← wholePart
  let fraction ← optional fraction
  let exponent ← optional exponent
  if (← get).head?.any isNameStart then failure
  let written := (if sign.isSome then ['-'] else []) ++ whole ++ fraction.getD [] ++ exponent.getD []
  match Json.readNumber written with
  | some (value, []) => return .ofJson value
  | _ => failure

end Reader

/-! ### Texts -/

/-- The text up to the closing quote, and the rest after it; `read` is what was read, backwards. -/
def readQuoted (read : List Char) : List Char → Option (String × List Char)
  | [] => none
  | '"' :: rest => some (String.ofList read.reverse, rest)
  | '\\' :: '"' :: rest => readQuoted ('"' :: read) rest
  | '\\' :: '\\' :: rest => readQuoted ('\\' :: read) rest
  | '\\' :: '/' :: rest => readQuoted ('/' :: read) rest
  | '\\' :: 'b' :: rest => readQuoted ('\x08' :: read) rest
  | '\\' :: 'f' :: rest => readQuoted ('\x0c' :: read) rest
  | '\\' :: 'n' :: rest => readQuoted ('\n' :: read) rest
  | '\\' :: 'r' :: rest => readQuoted ('\r' :: read) rest
  | '\\' :: 't' :: rest => readQuoted ('\t' :: read) rest
  | '\\' :: 'u' :: a :: b :: c :: d :: rest =>
    match Json.hexNumber? [a, b, c, d] with
    | none => none
    | some unit =>
      if 0xD800 ≤ unit ∧ unit < 0xE000 then none else readQuoted (Char.ofNat unit :: read) rest
  | c :: rest => if c = '\\' ∨ c = '\n' ∨ c = '\r' then none else readQuoted (c :: read) rest

/-- The characters up to three quotes, and the rest after these. Three quotes behind a backslash
do not end the block; they and the backslash are part of it. -/
def readBlock (read : List Char) : List Char → Option (List Char × List Char)
  | [] => none
  | '"' :: '"' :: '"' :: rest => some (read.reverse, rest)
  | '\\' :: '"' :: '"' :: '"' :: rest => readBlock ('"' :: '"' :: '"' :: '\\' :: read) rest
  | c :: rest => readBlock (c :: read) rest

/-- The lines of a text; `line` is what was read of the first one, backwards. -/
def blockLines (line : List Char) : List Char → List (List Char)
  | [] => [line.reverse]
  | '\r' :: '\n' :: rest => line.reverse :: blockLines [] rest
  | c :: rest =>
    if c = '\r' ∨ c = '\n' then line.reverse :: blockLines [] rest
    else blockLines (c :: line) rest

/-- Whether a character is part of the margin of a line. -/
def isMargin (c : Char) : Bool := c = ' ' || c = '\t'

/-- The width of the margin that the lines after the first one have in common; lines without
anything else are left out of account. -/
def commonMargin (lines : List (List Char)) : Nat :=
  let margins := (lines.tail.filter fun line => !line.all isMargin).map fun line =>
    (line.takeWhile isMargin).length
  margins.min?.getD 0

/-- The text of a block: the lines without their common margin, and without the lines at the start
and at the end that are margin only. A line shorter than the margin is kept as it is. -/
def blockText (block : List Char) : String :=
  let lines := blockLines [] block
  let margin := commonMargin lines
  let unindented (line : List Char) : List Char :=
    if margin ≤ line.length then line.drop margin else line
  let lines := lines.take 1 ++ lines.tail.map unindented
  let isEmptyLine (line : List Char) : Bool := line.all isMargin
  let lines := ((lines.dropWhile isEmptyLine).reverse.dropWhile isEmptyLine).reverse
  String.intercalate "\n" (lines.map String.ofList)

namespace Reader

/-- Reads a text on several lines between three quotes each. -/
def block : Reader String := do
  exactly ['"', '"', '"']
  let (block, rest) ← StateT.lift (readBlock [] (← get))
  set rest
  return blockText block

/-- Reads a text on one line between quotes. -/
def quoted : Reader String := do
  exactly ['"']
  let (value, rest) ← StateT.lift (readQuoted [] (← get))
  set rest
  return value

/-- Reads a text. Three quotes that start no block are an empty text and the start of another. -/
def text : Reader String := do
  toWord
  block <|> quoted

end Reader

end LinkedShapes.GraphQL
