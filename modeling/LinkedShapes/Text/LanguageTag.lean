/-!
# Language tags

The well-formed language tags of BCP 47: a language, then optionally extended languages, a script, a
region, variants, extensions and a private use part, in this order; a tag that is private as a
whole; and the tags that were registered before this grammar.
-/

namespace LinkedShapes.Text

/-- Tags registered before the grammar, in lower case. -/
def registeredTags : List String :=
  ["art-lojban", "cel-gaulish", "en-gb-oed", "i-ami", "i-bnn", "i-default", "i-enochian", "i-hak",
   "i-klingon", "i-lux", "i-mingo", "i-navajo", "i-pwn", "i-tao", "i-tay", "i-tsu", "no-bok",
   "no-nyn", "sgn-be-fr", "sgn-be-nl", "sgn-ch-de", "zh-guoyu", "zh-hakka", "zh-min", "zh-min-nan",
   "zh-xiang"]

/-- The part of a tag that its last subtag belongs to. -/
inductive TagPart where
  /-- A short language, with the number of extended languages after it. -/
  | language (extended : Nat)
  /-- A long language, or a script. -/
  | script (seen : Bool)
  /-- A region or a variant. -/
  | variants
  /-- An extension; `missing` says whether its first subtag is still to come. -/
  | extension (missing : Bool)
  /-- The private use part; `missing` says whether its first subtag is still to come. -/
  | privateUse (missing : Bool)
  deriving DecidableEq

/-- Whether all characters are letters. -/
def isAlphabetic (subtag : List Char) : Bool := subtag.all Char.isAlpha

/-- Whether all characters are digits. -/
def isNumeric (subtag : List Char) : Bool := subtag.all Char.isDigit

/-- Whether a subtag is a script. -/
def isScriptTag (subtag : List Char) : Bool := subtag.length = 4 && isAlphabetic subtag

/-- Whether a subtag is a region. -/
def isRegionTag (subtag : List Char) : Bool :=
  (subtag.length = 2 && isAlphabetic subtag) || (subtag.length = 3 && isNumeric subtag)

/-- Whether a subtag is a variant. -/
def isVariantTag (subtag : List Char) : Bool :=
  5 ≤ subtag.length || (subtag.length = 4 && subtag.head?.any Char.isDigit)

/-- The part after one more subtag; none if the subtag can not follow. -/
def TagPart.next? (part : TagPart) (subtag : List Char) : Option TagPart :=
  if subtag = [] || 8 < subtag.length || !subtag.all Char.isAlphanum then none
  else
    match part with
    | .privateUse _ => some (.privateUse false)
    | .extension true => if subtag.length = 1 then none else some (.extension false)
    | _ =>
      if subtag = ['x'] || subtag = ['X'] then some (.privateUse true)
      else if subtag.length = 1 then some (.extension true)
      else
        match part with
        | .extension _ => some (.extension false)
        | .language extended =>
          if subtag.length = 3 && isAlphabetic subtag && extended < 3 then
            some (.language (extended + 1))
          else if isScriptTag subtag then some (.script true)
          else if isRegionTag subtag || isVariantTag subtag then some .variants
          else none
        | .script seen =>
          if isScriptTag subtag && !seen then some (.script true)
          else if isRegionTag subtag || isVariantTag subtag then some .variants
          else none
        | _ => if isVariantTag subtag then some .variants else none

/-- Whether the tag may end after a part. -/
def TagPart.isComplete : TagPart → Bool
  | .extension missing => !missing
  | .privateUse missing => !missing
  | _ => true

/-- The part that the first subtag stands for. -/
def firstTagPart? (subtag : List Char) : Option TagPart :=
  if subtag = ['x'] || subtag = ['X'] then some (.privateUse true)
  else if isAlphabetic subtag && 2 ≤ subtag.length && subtag.length ≤ 8 then
    some (if subtag.length < 4 then .language 0 else .script false)
  else none

/-- Whether a text is a language tag. -/
def isLanguageTag (tag : List Char) : Bool :=
  if String.ofList (tag.map Char.toLower) ∈ registeredTags then true
  else
    match tag.splitOn '-' with
    | [] => false
    | first :: rest =>
      ((firstTagPart? first).bind fun part => rest.foldlM TagPart.next? part).any
        TagPart.isComplete

end LinkedShapes.Text
