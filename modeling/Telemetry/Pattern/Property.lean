import Telemetry.Pattern.Basic

/-!
# Properties of characters in patterns

A property has a name, as in `\\p{Lu}`, or a name and a value, as in `\\p{Script=Greek}`. The
tables of this module know the general categories, the scripts, and the properties Alphabetic,
Lowercase, Uppercase and White_Space.
-/

namespace Telemetry

/-- A property as it is written. -/
structure Property where
  /-- Whether the value is one that characters must not have. -/
  unequal : Bool
  name : List Char
  value : Option (List Char)
  deriving DecidableEq, Repr

namespace Property

/-- What stands before the first occurrence of a mark, and what behind it. -/
def splitAt? (mark : List Char) : List Char → Option (List Char × List Char)
  | [] => none
  | c :: rest =>
    if mark.isPrefixOf (c :: rest) then some ([], (c :: rest).drop mark.length)
    else (splitAt? mark rest).map fun (before, behind) => (c :: before, behind)

/-- A name, or a name and a value with a mark between them. -/
def ofText (text : List Char) : Property :=
  match splitAt? ['!', '='] text, splitAt? [':'] text, splitAt? ['='] text with
  | some (name, value), _, _ => ⟨true, name, some value⟩
  | none, some (name, value), _ => ⟨false, name, some value⟩
  | none, none, some (name, value) => ⟨false, name, some value⟩
  | none, none, none => ⟨false, text, none⟩

end Property

namespace CharSet

def isNameGap (c : Char) : Bool := c = ' ' || c = '_' || c = '-' || 0x7f < c.toNat

/-- Names are compared without blanks, lines and hyphens, in lower case, and without a leading
`is`; but `isc` is a name of its own. -/
def normalName (name : List Char) : String :=
  let plain (name : List Char) := (name.filter (!isNameGap ·)).map Char.toLower
  match name with
  | i :: s :: rest =>
    if i.toLower = 'i' ∧ s.toLower = 's' then
      if plain rest = ['c'] then "isc" else String.ofList (plain rest)
    else String.ofList (plain name)
  | short => String.ofList (plain short)

def ofCategoryName? (name : String) : Option CharSet :=
  match name with
  | "any" => some (.compl .none)
  | "ascii" => some (.range '\x00' '\x7f')
  | "assigned" => some (.compl (.category ["Cn"]))
  | name => (Text.categoryNames.lookup name).map .category

/-- A script by its name or its code. -/
def ofScriptName? (name : String) : Option CharSet :=
  (Text.scripts.find? fun (long, code) =>
    normalName long.toList == name || normalName code.toList == name).map fun (_, code) =>
      .script code

def ofPropertyName? (name : String) : Option CharSet :=
  match name with
  | "alphabetic" | "alpha" => some .alphabetic
  | "lowercase" | "lower" => some .lowercase
  | "uppercase" | "upper" => some .uppercase
  | "whitespace" | "wspace" | "space" => some .blank
  | name => (ofCategoryName? name).or (ofScriptName? name)

def ofPropertyValue? (name value : String) : Option CharSet :=
  match name with
  | "generalcategory" | "gc" | "category" => ofCategoryName? value
  | "script" | "sc" => ofScriptName? value
  | _ => Option.none

/-- The set of a property that the tables know. -/
def ofProperty? (name : List Char) (value : Option (List Char)) : Option CharSet :=
  match value with
  | some value => ofPropertyValue? (normalName name) (normalName value)
  | Option.none => ofPropertyName? (normalName name)

end CharSet

end Telemetry
