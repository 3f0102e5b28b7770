import Fieldwise.Unicode.Class

/-!
# Names of capture groups

A capture group has a number, and may have a name besides. `GroupName` holds the names that a
pattern can give, and `GroupNames` those that one pattern gives: no name stands for two groups.
-/

namespace Fieldwise.Pattern

/-- Whether a character can begin a group's name: an alphabetic character or the low line. -/
def isNameStart (c : Char) : Bool := c == '_' || isAlphabetic c

/-- Whether a character can stand in a group's name after the first: an alphabetic or numeric
character, the low line, a dot or a square bracket. -/
def isNameRest (c : Char) : Bool :=
  c == '_' || c == '.' || c == '[' || c == ']' || isAlphanumeric c

/-- Whether a text can be the name of a group. -/
def isGroupName : List Char → Bool
  | [] => false
  | c :: cs => isNameStart c && cs.all isNameRest

/-- The name of a capture group. -/
structure GroupName where
  chars : List Char
  valid : isGroupName chars = true
  deriving DecidableEq, Repr

/-- The name as a string. -/
def GroupName.text (n : GroupName) : String := String.ofList n.chars

/-- The names that a pattern gives to its groups, with the groups' numbers. No name occurs twice. -/
structure GroupNames where
  entries : List (GroupName × Nat)
  nodup : (entries.map Prod.fst).Nodup

namespace GroupNames

/-- No names. -/
def empty : GroupNames := ⟨[], List.nodup_nil⟩

/-- The number of the group that has the name. -/
def index? (t : GroupNames) (name : List Char) : Option Nat :=
  (t.entries.find? fun e => e.1.chars == name).map Prod.snd

/-- Gives a name to a group. -/
def insert (t : GroupNames) (name : GroupName) (index : Nat)
    (h : name ∉ t.entries.map Prod.fst) : GroupNames :=
  ⟨(name, index) :: t.entries, List.nodup_cons.mpr ⟨h, t.nodup⟩⟩

/-- The names of the groups whose numbers the test accepts. -/
def keep (t : GroupNames) (p : Nat → Bool) : GroupNames :=
  ⟨t.entries.filter fun e => p e.2, t.nodup.sublist (List.filter_sublist.map Prod.fst)⟩

end GroupNames

end Fieldwise.Pattern
