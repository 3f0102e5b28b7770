import Fieldwise.Unicode.CharSet
import Fieldwise.Unicode.Data.GeneralCategory
import Fieldwise.Unicode.Data.Binary
import Fieldwise.Unicode.Data.Word

/-!
# Classes of characters

The classes of characters that several parts of the library ask for: digits, white space, word
characters, letters, and the characters that are shown as they are when a text is quoted.
-/

namespace Fieldwise

/-- The set that a table holds under a name; the empty set if there is none. -/
def lookupSet (table : List (String × String)) (name : String) : CharSet :=
  (table.lookup name).elim .empty .parse

/-- The decimal digits of all scripts. -/
def digitSet : CharSet := lookupSet Unicode.Data.generalCategories "Decimal_Number"

/-- White space. -/
def spaceSet : CharSet := lookupSet Unicode.Data.binaryProperties "White_Space"

/-- The characters of words: alphabetic characters, marks, decimal digits, connector punctuation and
join controls. -/
def wordSet : CharSet := .parse Unicode.Data.wordCharacters

/-- Whether an ASCII character belongs to words: a letter, a digit or the low line. -/
def isAsciiWord (c : Char) : Bool := c.isAlphanum || c == '_'

/-- Whether a character belongs to words. -/
def isWord (c : Char) : Bool := if c.toNat < 0x80 then isAsciiWord c else wordSet.contains c

/-- Whether a character is white space. -/
def isSpace (c : Char) : Bool :=
  if c.toNat < 0x80 then c == ' ' || ('\t' ≤ c && c ≤ '\r') else spaceSet.contains c

/-- The alphabetic characters. -/
def alphabeticSet : CharSet := lookupSet Unicode.Data.binaryProperties "Alphabetic"

/-- The characters with a numeric category. -/
def numericSet : CharSet :=
  ["Decimal_Number", "Letter_Number", "Other_Number"].foldl
    (fun s name => s.union (lookupSet Unicode.Data.generalCategories name)) .empty

/-- Whether a character is alphabetic. -/
def isAlphabetic (c : Char) : Bool :=
  if c.toNat < 0x80 then c.isAlpha else alphabeticSet.contains c

/-- Whether a character is alphabetic or numeric. -/
def isAlphanumeric (c : Char) : Bool :=
  if c.toNat < 0x80 then c.isAlphanum else alphabeticSet.contains c || numericSet.contains c

/-- The characters that a quoted text shows as escapes: controls, format characters, unassigned and
private code points, separators other than the space, and those that extend the character before. -/
def escapedSet : CharSet :=
  ["Control", "Format", "Private_Use", "Unassigned", "Line_Separator", "Paragraph_Separator",
    "Space_Separator"].foldl
    (fun s name => s.union (lookupSet Unicode.Data.generalCategories name))
    (lookupSet Unicode.Data.binaryProperties "Grapheme_Extend")

/-- Whether a quoted text shows the character as it is. -/
def isShown (c : Char) : Bool :=
  if c.toNat < 0x80 then ' ' ≤ c && c ≤ '~' else !escapedSet.contains c

end Fieldwise
