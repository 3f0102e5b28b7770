import Fieldwise.Unicode.CharSet
import Fieldwise.Unicode.Data.CaseFolding

/-!
# Simple case folding

Characters that fold to the same character match each other when case is ignored. `foldTable` lists,
for each character that shares its fold, the others of its group, and `CharSet.fold` closes a set
under the relation.
-/

namespace Fieldwise

/-- Reads the members of a group such as `4B/6B/212A`. `n` is the number in hand. -/
def parseFoldGroup (n : Nat) : List Char → List Nat
  | [] => [n]
  | '/' :: cs => n :: parseFoldGroup 0 cs
  | c :: cs => parseFoldGroup (n * 16 + CharSet.hexValue c) cs

/-- The characters that share their fold with another, in rising order, each with the others. -/
def foldTable : Array (Nat × List Nat) :=
  let groups := (CharSet.blankSeparated [] Unicode.Data.foldGroups.toList).map (parseFoldGroup 0)
  let members := groups.flatMap fun group => group.map fun c => (c, group.filter (· != c))
  (members.mergeSort fun a b => a.1 ≤ b.1).toArray

namespace CharSet

/-- The members of the groups of the set's members, themselves left out. -/
def foldMates (s : CharSet) : List (Nat × Nat) :=
  foldTable.toList.flatMap fun (c, mates) =>
    if search s.ranges c s.ranges.size 0 s.ranges.size then mates.map fun m => (m, m) else []

/-- The set closed under simple case folding. -/
def fold (s : CharSet) : CharSet :=
  match s.foldMates with
  | [] => s
  | mates => ofRanges (s.ranges.toList ++ mates)

/-- The set closed under the case of ASCII letters alone. -/
def foldAscii (s : CharSet) : CharSet :=
  let lower := (s.inter ⟨#[(0x41, 0x5A)]⟩).ranges.toList.map fun r => (r.1 + 0x20, r.2 + 0x20)
  let upper := (s.inter ⟨#[(0x61, 0x7A)]⟩).ranges.toList.map fun r => (r.1 - 0x20, r.2 - 0x20)
  ofRanges (s.ranges.toList ++ lower ++ upper)

end CharSet

/-- Whether the character shares its fold with another. -/
def hasCaseMates (c : Char) : Bool := !(CharSet.singleton c).foldMates.isEmpty

end Fieldwise
