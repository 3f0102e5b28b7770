import Fieldwise.Unicode.CharSet
import Fieldwise.Unicode.Class
import Fieldwise.Unicode.Data.GeneralCategory
import Fieldwise.Unicode.Data.Script
import Fieldwise.Unicode.Data.ScriptExtensions
import Fieldwise.Unicode.Data.Binary
import Fieldwise.Unicode.Data.Age
import Fieldwise.Unicode.Data.Segmentation
import Fieldwise.Unicode.Data.Names

/-!
# Properties by name

`PropertyQuery.resolve` finds the set of characters that a property, a general category, a script or
a value of a property names. Names are matched loosely: case, blanks, hyphens and low lines do not
count, nor does a leading "is".
-/

namespace Fieldwise

open Unicode

/-- What is asked of the properties: one name, or a property together with one of its values. -/
inductive PropertyQuery where
  | named (name : String)
  | valued (property value : String)
  deriving BEq, DecidableEq, Repr

/-- Why a query has no answer. -/
inductive PropertyError where
  | unknownProperty
  | unknownValue
  deriving BEq, DecidableEq, Repr

/-- A name in the form in which names are compared: ASCII letters in lower case, without blanks,
hyphens, low lines, characters outside ASCII and a leading "is". The abbreviation `isc` is kept, so
that it does not stand for the category C. -/
def looseName (name : String) : String :=
  let cs := name.toList
  let startsWithIs := match cs with
    | a :: b :: _ => (a == 'i' || a == 'I') && (b == 's' || b == 'S')
    | _ => false
  let kept := (if startsWithIs then cs.drop 2 else cs).filter
    fun c => c.toNat < 0x80 && !(c == ' ' || c == '_' || c == '-')
  let folded := String.ofList (kept.map Char.toLower)
  if startsWithIs && folded == "c" then "isc" else folded

/-- The long name of the entry that holds the name, which is given in its loose form. -/
def longName? (names : List (List String)) (loose : String) : Option String :=
  (names.find? fun entry => entry.any fun n => looseName n == loose).bind List.head?

/-- The parts of the general categories that unite several of them. -/
def categoryGroups : List (String × List String) := [
  ("Cased_Letter", ["Uppercase_Letter", "Lowercase_Letter", "Titlecase_Letter"]),
  ("Letter", ["Uppercase_Letter", "Lowercase_Letter", "Titlecase_Letter", "Modifier_Letter",
    "Other_Letter"]),
  ("Mark", ["Nonspacing_Mark", "Spacing_Mark", "Enclosing_Mark"]),
  ("Number", ["Decimal_Number", "Letter_Number", "Other_Number"]),
  ("Punctuation", ["Connector_Punctuation", "Dash_Punctuation", "Open_Punctuation",
    "Close_Punctuation", "Initial_Punctuation", "Final_Punctuation", "Other_Punctuation"]),
  ("Symbol", ["Math_Symbol", "Currency_Symbol", "Modifier_Symbol", "Other_Symbol"]),
  ("Separator", ["Space_Separator", "Line_Separator", "Paragraph_Separator"])]

/-- The set of the categories together. -/
def uniteCategories (names : List String) : CharSet :=
  .ofRanges (names.flatMap fun n => (lookupSet Data.generalCategories n).ranges.toList)

/-- The set of a general category under its long name. The surrogates are no characters, so their
category has no set; they join the ranges of the category that holds all that is no letter, mark,
number, punctuation, symbol or separator. -/
def categorySet? (name : String) : Option CharSet :=
  match name with
  | "Any" => some .all
  | "ASCII" => some ⟨#[(0, 0x7F)]⟩
  | "Assigned" => some (lookupSet Data.generalCategories "Unassigned").complement
  | "Other" =>
    some ((uniteCategories ["Control", "Format", "Private_Use", "Unassigned"]).union
      ⟨#[(0xD800, 0xDFFF)]⟩)
  | _ =>
    match categoryGroups.lookup name with
    | some parts => some (uniteCategories parts)
    | none => (Data.generalCategories.lookup name).map .parse

/-- The long name of a general category, or one of the three sets that are asked for like one. -/
def categoryName? (loose : String) : Option String :=
  match loose with
  | "any" => some "Any"
  | "assigned" => some "Assigned"
  | "ascii" => some "ASCII"
  | _ => longName? Data.generalCategoryNames loose

/-- The set of a value under its loose name, from the names and the sets of a property. -/
def valueSet (names : List (List String)) (sets : List (String × String)) (loose : String) :
    Except PropertyError CharSet :=
  match (longName? names loose).bind (fun name => sets.lookup name) with
  | some text => .ok (.parse text)
  | none => .error .unknownValue

/-- The characters that the versions of Unicode up to one have, which is given under its loose
name. -/
def ageSet (loose : String) : Except PropertyError CharSet :=
  match longName? Data.ageNames loose with
  | none => .error .unknownValue
  | some version =>
    match Data.ages.findIdx? (·.1 == version) with
    | none => .error .unknownValue
    | some i => .ok ((Data.ages.take (i + 1)).foldl (fun s e => s.union (.parse e.2)) .empty)

/-- The set that a general category names. -/
def categorySet (name : String) : Except PropertyError CharSet :=
  match categorySet? name with
  | some s => .ok s
  | none => .error .unknownValue

/-- The set of a property's value. -/
def propertyValueSet (property value : String) : Except PropertyError CharSet :=
  match longName? Data.propertyNames (looseName property) with
  | none => .error .unknownProperty
  | some name =>
    let loose := looseName value
    match name with
    | "General_Category" =>
      match categoryName? loose with
      | some category => categorySet category
      | none => .error .unknownValue
    | "Script" => valueSet Data.scriptNames Data.scripts loose
    | "Script_Extensions" => valueSet Data.scriptNames Data.scriptExtensions loose
    | "Age" => ageSet loose
    | "Grapheme_Cluster_Break" =>
      valueSet Data.graphemeClusterBreakNames Data.graphemeClusterBreaks loose
    | "Word_Break" => valueSet Data.wordBreakNames Data.wordBreaks loose
    | "Sentence_Break" => valueSet Data.sentenceBreakNames Data.sentenceBreaks loose
    | _ => .error .unknownValue

/-- The set that one name stands for: a binary property, else a general category, else a script.
`cf`, `sc` and `lc` abbreviate a category each and are not taken for a property. -/
def namedSet (name : String) : Except PropertyError CharSet :=
  let loose := looseName name
  let property? :=
    if loose == "cf" || loose == "sc" || loose == "lc" then none
    else longName? Data.propertyNames loose
  match property? with
  | some property =>
    match Data.binaryProperties.lookup property with
    | some text => .ok (.parse text)
    | none => .error .unknownProperty
  | none =>
    match categoryName? loose with
    | some category => categorySet category
    | none =>
      match longName? Data.scriptNames loose with
      | some script =>
        match Data.scripts.lookup script with
        | some text => .ok (.parse text)
        | none => .error .unknownValue
      | none => .error .unknownProperty

/-- The set of characters that a query names. -/
def PropertyQuery.resolve : PropertyQuery → Except PropertyError CharSet
  | .named name => namedSet name
  | .valued property value => propertyValueSet property value

end Fieldwise
