import Fieldwise.Json.Decode
import Fieldwise.Proofs.Json.Strings
import Mathlib.Data.List.Nodup

/-!
# Lists of strings read back from JSON

A written object of lists of strings is read back as these lists (`decodeLists_pretty`). The lemmas follow
the layout: an element or a member stands on a line of its own, and the reader of the one before it stops
short of the line's beginning. White space is stepped over wherever the layout has some, and nowhere else.
-/

namespace Fieldwise.Json

/-- A list of strings as a document. -/
def ofStrings (strings : List String) : Json := .array (strings.map .string)

/-- Lists of strings with names as the members of an object. -/
def ofEntries (entries : List (String × List String)) : List (String × Json) :=
  entries.map fun e => (e.1, ofStrings e.2)

theorem ofEntries_cons (e : String × List String) (entries : List (String × List String)) :
    ofEntries (e :: entries) = (e.1, ofStrings e.2) :: ofEntries entries := rfl

/-! ### White space -/

theorem skipWhite_append (white : List Char) {rest : List Char} (index : Nat) (hwhite : IsWhite white)
    (hrest : ∀ x ∈ rest.head?, Cursor.isWhite x = false) :
    Cursor.skipWhite ⟨index, white ++ rest⟩ = ⟨index + white.length, rest⟩ := by
  have htake : (white ++ rest).takeWhile Cursor.isWhite = white := by
    rw [List.takeWhile_append_of_pos hwhite]
    cases rest with
    | nil => simp
    | cons x rest => simp [hrest x rfl]
  rw [Cursor.skipWhite, htake, Cursor.skip, List.drop_left]

/-- White space ahead of other text is stepped over. -/
theorem skipWhite_isWhite {white : List Char} (hwhite : IsWhite white) {x : Char}
    (hx : Cursor.isWhite x = false) (index : Nat) (rest : List Char) :
    Cursor.skipWhite ⟨index, white ++ x :: rest⟩ = ⟨index + white.length, x :: rest⟩ :=
  skipWhite_append white index hwhite (by simpa using hx)

/-- Where there is no white space nothing is stepped over. -/
theorem skipWhite_cons {x : Char} (hx : Cursor.isWhite x = false) (index : Nat) (rest : List Char) :
    Cursor.skipWhite ⟨index, x :: rest⟩ = ⟨index, x :: rest⟩ :=
  skipWhite_append [] index nofun (by simpa using hx)

/-- White space up to the end is stepped over. -/
theorem skipWhite_all {white : List Char} (hwhite : IsWhite white) (index : Nat) :
    Cursor.skipWhite ⟨index, white⟩ = ⟨index + white.length, []⟩ := by
  have h := @skipWhite_append white [] index hwhite nofun
  rwa [List.append_nil] at h

theorem isWhite_newline (level : Nat) : IsWhite (newline level) := by
  intro x hx
  rcases List.mem_cons.mp hx with rfl | hx
  · rfl
  · rw [List.eq_of_mem_replicate hx]
    rfl

/-- The beginning of a line is stepped over. -/
theorem skipWhite_newline {x : Char} (hx : Cursor.isWhite x = false) (level index : Nat)
    (rest : List Char) :
    Cursor.skipWhite ⟨index, newline level ++ x :: rest⟩ =
      ⟨index + (newline level).length, x :: rest⟩ :=
  skipWhite_isWhite (isWhite_newline level) hx index rest

/-! ### Lists of strings -/

/-- What stands between the quotes of a string, and the quote that ends it. -/
def quotedRest (s : String) : List Char := s.toList.flatMap escapeChar ++ ['"']

theorem quoted_append (s : String) (rest : List Char) :
    quoted s ++ rest = '"' :: (quotedRest s ++ rest) := rfl

/-- A string is read back from between its quotes. -/
theorem reads_quoted (s : String) : Reads readString (quoted s) s := by
  intro index rest
  obtain ⟨index', hread⟩ := reads_escaped s.toList (index + 1) rest
  refine ⟨index', ?_⟩
  rw [quoted_append, readString, skipWhite_cons rfl]
  show (readStringRest ⟨index + 1, quotedRest s ++ rest⟩ >>= _) = _
  rw [quotedRest, hread]
  exact congrArg (fun s => Except.ok (s, _)) String.ofList_toList

section Elements

variable {first : Bool} {c c' after after' : Cursor} {index index' : Nat} {x : Char} {cs cs' : List Char}
variable {s : String} {strings : List String}

theorem nextElement?_end (h : c.skipWhite = ⟨index, ']' :: cs⟩) : nextElement? first c = .ok none := by
  simp only [nextElement?, h, if_true]

theorem nextElement?_first (h : c.skipWhite = ⟨index, x :: cs⟩) (hx : x ≠ ']') :
    nextElement? true c = .ok (some ⟨index, x :: cs⟩) := by
  simp only [nextElement?, h, if_neg hx, if_true]

theorem nextElement?_comma (h : c.skipWhite = ⟨index, ',' :: cs⟩)
    (h' : Cursor.skipWhite ⟨index + 1, cs⟩ = ⟨index', x :: cs'⟩) (hx : x ≠ ']') :
    nextElement? false c = .ok (some ⟨index', x :: cs'⟩) := by
  have hbump : Cursor.bump ⟨index, ',' :: cs⟩ = ⟨index + 1, cs⟩ := rfl
  simp only [nextElement?, h, if_neg (show ',' ≠ ']' by decide), Bool.false_eq_true, if_false, if_true,
    hbump, h', if_neg hx]

/-- A reader of elements that comes upon the end of the array stops short of it. -/
theorem readElements_of_end (h : nextElement? first c = .ok none) : readElements first c = .ok ([], c) := by
  rw [readElements]
  split
  · rename_i f hf
    cases h.symm.trans hf
  · rfl
  · rename_i c' hc'
    cases h.symm.trans hc'

/-- A reader of elements reads one element and then the others. -/
theorem readElements_of_next (h : nextElement? first c = .ok (some c'))
    (hs : readString c' = .ok (s, after)) (hrest : readElements false after = .ok (strings, after')) :
    readElements first c = .ok (s :: strings, after') := by
  rw [readElements]
  split
  · rename_i f hf
    cases h.symm.trans hf
  · rename_i hn
    cases h.symm.trans hn
  · rename_i c₁ hc₁
    obtain rfl := Option.some.inj (Except.ok.inj (h.symm.trans hc₁))
    split
    · rename_i f hf
      cases hs.symm.trans hf
    · rename_i s₁ after₁ hs₁
      obtain ⟨rfl, rfl⟩ := Prod.mk.inj (Except.ok.inj (hs.symm.trans hs₁))
      rw [hrest]

theorem endList_of_end (h : c.skipWhite = ⟨index, ']' :: cs⟩) : endList c = .ok ⟨index + 1, cs⟩ := by
  simp only [endList, h, if_true]
  rfl

/-- An array is read by its elements and its end. -/
theorem readStrings_of_elements (h : readElements true ⟨index + 1, cs⟩ = .ok (strings, c))
    (hend : endList c = .ok after) : readStrings ⟨index, '[' :: cs⟩ = .ok (strings, after) := by
  rw [readStrings, skipWhite_cons rfl]
  show (readElements true ⟨index + 1, cs⟩ >>= _) = _
  rw [h]
  show (endList c >>= _) = _
  rw [hend]
  rfl

end Elements

/-- The elements after the first are read back, up to the end of the array. -/
theorem readElements_pretty (level : Nat) (strings : List String) (rest : List Char) (index : Nat) :
    ∃ index', readElements false ⟨index, prettyElements level (strings.map .string) ++ rest⟩ =
      .ok (strings, ⟨index', newline level ++ ']' :: rest⟩) := by
  induction strings generalizing index with
  | nil =>
    rw [List.map_nil, prettyElements, List.append_assoc]
    exact ⟨index, readElements_of_end (nextElement?_end (skipWhite_newline rfl level index rest))⟩
  | cons s strings ih =>
    rw [List.map_cons, prettyElements, prettyAt]
    simp only [List.cons_append, List.append_assoc]
    obtain ⟨index₁, hs⟩ := reads_quoted s (index + 1 + (newline (level + 1)).length)
      (prettyElements level (strings.map .string) ++ rest)
    obtain ⟨index₂, hrest⟩ := ih index₁
    rw [quoted_append] at hs ⊢
    exact ⟨index₂, readElements_of_next (nextElement?_comma (skipWhite_cons rfl index _)
      (skipWhite_newline rfl (level + 1) (index + 1) _) (by decide)) hs hrest⟩

/-- A list of strings is read back from its array. -/
theorem reads_strings (level : Nat) (strings : List String) :
    Reads readStrings ((ofStrings strings).prettyAt level) strings := by
  intro index rest
  cases strings with
  | nil =>
    exact ⟨_, readStrings_of_elements
      (readElements_of_end (nextElement?_end (skipWhite_cons rfl (index + 1) rest)))
      (endList_of_end (skipWhite_cons rfl (index + 1) rest))⟩
  | cons s strings =>
    rw [ofStrings, List.map_cons, prettyAt, prettyAt]
    simp only [List.cons_append, List.append_assoc]
    obtain ⟨index₁, hs⟩ := reads_quoted s (index + 1 + (newline (level + 1)).length)
      (prettyElements level (strings.map .string) ++ rest)
    obtain ⟨index₂, hrest⟩ := readElements_pretty level strings rest index₁
    rw [quoted_append] at hs ⊢
    exact ⟨_, readStrings_of_elements
      (readElements_of_next (nextElement?_first (skipWhite_newline rfl (level + 1) (index + 1) _)
        (by decide)) hs hrest)
      (endList_of_end (skipWhite_newline rfl level index₂ rest))⟩

/-! ### Objects of lists -/

section Members

variable {first : Bool} {c c' after after' : Cursor} {index index' : Nat} {cs cs' : List Char}
variable {fields : List String} {found found' found'' : Found}

theorem nextKey?_end (h : c.skipWhite = ⟨index, '}' :: cs⟩) : nextKey? first c = .ok none := by
  simp only [nextKey?, h, if_true]

theorem nextKey?_first (h : c.skipWhite = ⟨index, '"' :: cs⟩) :
    nextKey? true c = .ok (some ⟨index + 1, cs⟩) := by
  simp only [nextKey?, h, if_neg (show '"' ≠ '}' by decide), if_true]
  rfl

theorem nextKey?_comma (h : c.skipWhite = ⟨index, ',' :: cs⟩)
    (h' : Cursor.skipWhite ⟨index + 1, cs⟩ = ⟨index', '"' :: cs'⟩) :
    nextKey? false c = .ok (some ⟨index' + 1, cs'⟩) := by
  have hbump : Cursor.bump ⟨index, ',' :: cs⟩ = ⟨index + 1, cs⟩ := rfl
  simp only [nextKey?, h, if_neg (show ',' ≠ '}' by decide), Bool.false_eq_true, if_false, if_true,
    hbump, h']
  rfl

theorem readMembers_of_end (h : nextKey? first c = .ok none) :
    readMembers fields found first c = .ok (found, c) := by
  rw [readMembers]
  split
  · rename_i f hf
    cases h.symm.trans hf
  · rfl
  · rename_i c' hc'
    cases h.symm.trans hc'

/-- A reader of members reads one member and then the others. -/
theorem readMembers_of_next (h : nextKey? first c = .ok (some c'))
    (hm : readMember fields found c' = .ok (found', after))
    (hrest : readMembers fields found' false after = .ok (found'', after')) :
    readMembers fields found first c = .ok (found'', after') := by
  rw [readMembers]
  split
  · rename_i f hf
    cases h.symm.trans hf
  · rename_i hn
    cases h.symm.trans hn
  · rename_i c₁ hc₁
    obtain rfl := Option.some.inj (Except.ok.inj (h.symm.trans hc₁))
    split
    · rename_i f hf
      cases hm.symm.trans hf
    · rename_i found₁ after₁ hm₁
      obtain ⟨rfl, rfl⟩ := Prod.mk.inj (Except.ok.inj (hm.symm.trans hm₁))
      exact hrest

end Members

/-- A blank before a list is stepped over. -/
theorem readStrings_blank (index : Nat) (rest : List Char) :
    readStrings ⟨index, ' ' :: rest⟩ = readStrings ⟨index + 1, rest⟩ := by
  have hskip : Cursor.skipWhite ⟨index, ' ' :: rest⟩ = Cursor.skipWhite ⟨index + 1, rest⟩ := by
    rw [Cursor.skipWhite, Cursor.skipWhite, List.takeWhile_cons_of_pos rfl, List.length_cons, Cursor.skip,
      Cursor.skip, List.drop_succ_cons, Nat.add_assoc, Nat.add_comm _ 1]
  rw [readStrings, hskip, ← readStrings]

variable {fields : List String} {found : Found}

/-- A member that is a field is read back, after the first quote of its key. -/
theorem readMember_pretty {name : String} (hfield : name ∈ fields) (hnew : found.lookup name = none)
    (level : Nat) (strings : List String) (rest : List Char) (index : Nat) :
    ∃ index', readMember fields found
        ⟨index, quotedRest name ++ ':' :: ' ' :: ((ofStrings strings).prettyAt level ++ rest)⟩ =
      .ok ((name, strings) :: found, ⟨index', rest⟩) := by
  obtain ⟨index₁, hkey⟩ := reads_escaped name.toList index
    (':' :: ' ' :: ((ofStrings strings).prettyAt level ++ rest))
  obtain ⟨index₂, hvalue⟩ := reads_strings level strings (index₁ + 1 + 1) rest
  refine ⟨index₂, ?_⟩
  rw [← quotedRest] at hkey
  have hcolon : readColon ⟨index₁, ':' :: ' ' :: ((ofStrings strings).prettyAt level ++ rest)⟩ =
      .ok ⟨index₁ + 1, ' ' :: ((ofStrings strings).prettyAt level ++ rest)⟩ := by
    rw [readColon, skipWhite_cons rfl]
    rfl
  simp only [readMember, hkey, bind, Except.bind, String.ofList_toList, List.contains_eq_mem, hfield,
    decide_true, if_true, hnew, Option.isSome_none, Bool.false_eq_true, if_false, hcolon,
    readStrings_blank, hvalue]

/-- A field that has not been found yet has not been found after another one either. -/
theorem lookup_cons_eq_none {e : String × List String} {entries : List (String × List String)}
    (hnotMem : e.1 ∉ entries.map Prod.fst) (hnew : ∀ e' ∈ entries, found.lookup e'.1 = none) :
    ∀ e' ∈ entries, List.lookup e'.1 (e :: found) = none := by
  intro e' he'
  have hne : e'.1 ≠ e.1 := fun h => hnotMem (h ▸ List.mem_map_of_mem he')
  rw [List.lookup_cons, show (e'.1 == e.1) = false by simpa using hne]
  exact hnew e' he'

/-- The members after the first are read back, up to the end of the object. -/
theorem readMembers_pretty (level : Nat) {entries : List (String × List String)}
    (hfields : ∀ e ∈ entries, e.1 ∈ fields) (hnodup : (entries.map Prod.fst).Nodup)
    (hnew : ∀ e ∈ entries, found.lookup e.1 = none) (rest : List Char) (index : Nat) :
    ∃ index', readMembers fields found false
        ⟨index, prettyMembers level (ofEntries entries) ++ rest⟩ =
      .ok (entries.reverse ++ found, ⟨index', newline level ++ '}' :: rest⟩) := by
  induction entries generalizing index found with
  | nil =>
    rw [show ofEntries [] = [] from rfl, prettyMembers, List.append_assoc]
    exact ⟨index, readMembers_of_end (nextKey?_end (skipWhite_newline rfl level index rest))⟩
  | cons e entries ih =>
    obtain ⟨hfield, hfields⟩ := List.forall_mem_cons.mp hfields
    obtain ⟨hnotMem, hnodup⟩ := List.nodup_cons.mp hnodup
    obtain ⟨hnone, hnew⟩ := List.forall_mem_cons.mp hnew
    obtain ⟨index₁, hmember⟩ := readMember_pretty hfield hnone (level + 1) e.2
      (prettyMembers level (ofEntries entries) ++ rest) (index + 1 + (newline (level + 1)).length + 1)
    obtain ⟨index₂, hrest⟩ := ih hfields hnodup (lookup_cons_eq_none hnotMem hnew) index₁
    refine ⟨index₂, ?_⟩
    rw [ofEntries_cons, prettyMembers]
    simp only [List.cons_append, List.append_assoc, List.reverse_cons, List.nil_append]
    rw [quoted_append]
    exact readMembers_of_next (nextKey?_comma (skipWhite_cons rfl index _)
      (skipWhite_newline rfl (level + 1) (index + 1) _)) hmember hrest

/-- What has been found for the fields is collected in their order. -/
theorem collect_of_lookup {entries : List (String × List String)} (c : Cursor)
    (h : ∀ e ∈ entries, found.lookup e.1 = some e.2) :
    collect found c (entries.map Prod.fst) = .ok (entries.map Prod.snd) := by
  induction entries with
  | nil => rfl
  | cons e entries ih =>
    obtain ⟨he, hentries⟩ := List.forall_mem_cons.mp h
    rw [List.map_cons, collect, he]
    simp only [ih hentries]
    rfl

/-- In a list of named values in which no name comes twice, every name has its value. -/
theorem lookup_of_mem {entries : List (String × List String)} (hnodup : (entries.map Prod.fst).Nodup)
    {e : String × List String} (he : e ∈ entries) : entries.lookup e.1 = some e.2 := by
  induction entries with
  | nil => exact absurd he List.not_mem_nil
  | cons e' entries ih =>
    obtain ⟨hnotMem, hnodup⟩ := List.nodup_cons.mp hnodup
    rw [List.lookup_cons]
    rcases List.mem_cons.mp he with rfl | he
    · rw [beq_self_eq_true]
    · have hne : e.1 ≠ e'.1 := fun h => hnotMem (h ▸ List.mem_map_of_mem he)
      rw [show (e.1 == e'.1) = false by simpa using hne]
      exact ih hnodup he

theorem endObject_of_end {c : Cursor} {index : Nat} {cs : List Char} (h : c.skipWhite = ⟨index, '}' :: cs⟩) :
    endObject c = .ok ⟨index + 1, cs⟩ := by
  simp only [endObject, h, if_true]
  rfl

/-- An object is read by its members and its end, if all fields are among the members. -/
theorem readStruct_of_members {name : String} {c after : Cursor} {index : Nat} {cs : List Char}
    {values : List (List String)} (h : readMembers fields [] true ⟨index + 1, cs⟩ = .ok (found, c))
    (hcollect : collect found c fields = .ok values) (hend : endObject c = .ok after) :
    readStruct name fields ⟨index, '{' :: cs⟩ = .ok (values, after) := by
  have hbump : Cursor.bump ⟨index, '{' :: cs⟩ = ⟨index + 1, cs⟩ := rfl
  rw [readStruct, skipWhite_cons rfl]
  simp only [if_true, hbump, h, hcollect, bind, Except.bind, settle, hend]

/-- The lists of an object are read back, in the order of its members. -/
theorem readStruct_pretty (name : String) {entries : List (String × List String)}
    (hnodup : (entries.map Prod.fst).Nodup) :
    Reads (readStruct name (entries.map Prod.fst)) ((Json.object (ofEntries entries)).prettyAt 0)
      (entries.map Prod.snd) := by
  intro index rest
  -- the members are found in reverse, but collected in the order of the fields
  have hcollect : ∀ c, collect entries.reverse c (entries.map Prod.fst) = .ok (entries.map Prod.snd) := by
    refine fun c => collect_of_lookup c fun e he => lookup_of_mem ?_ (List.mem_reverse.mpr he)
    rwa [List.map_reverse, List.nodup_reverse]
  cases entries with
  | nil =>
    exact ⟨_, readStruct_of_members
      (readMembers_of_end (nextKey?_end (skipWhite_cons rfl (index + 1) rest))) (hcollect _)
      (endObject_of_end (skipWhite_cons rfl (index + 1) rest))⟩
  | cons e entries =>
    obtain ⟨hnotMem, hnodup⟩ := List.nodup_cons.mp hnodup
    have hfields : ∀ e' ∈ entries, e'.1 ∈ (e :: entries).map Prod.fst := fun e' he' =>
      List.mem_map_of_mem (List.mem_cons_of_mem e he')
    have hnew : ∀ e' ∈ entries, List.lookup e'.1 [e] = none :=
      lookup_cons_eq_none hnotMem fun _ _ => List.lookup_nil
    obtain ⟨index₁, hmember⟩ := readMember_pretty (List.mem_map_of_mem List.mem_cons_self)
      List.lookup_nil 1 e.2 (prettyMembers 0 (ofEntries entries) ++ rest)
      (index + 1 + (newline 1).length + 1)
    obtain ⟨index₂, hrest⟩ := readMembers_pretty 0 hfields hnodup hnew rest index₁
    rw [List.reverse_cons] at hcollect
    rw [ofEntries_cons, prettyAt]
    simp only [List.cons_append, List.append_assoc]
    rw [quoted_append]
    exact ⟨_, readStruct_of_members
      (readMembers_of_next (nextKey?_first (skipWhite_newline rfl 1 (index + 1) _)) hmember hrest)
      (hcollect _) (endObject_of_end (skipWhite_newline rfl 0 index₂ rest))⟩

/-- **Objects of lists.** What an object of lists is written as is read back as these lists, also if white
space follows it. -/
theorem decodeLists_pretty (name : String) {entries : List (String × List String)}
    (hnodup : (entries.map Prod.fst).Nodup) {white : List Char}
    (hwhite : ∀ x ∈ white, Cursor.isWhite x = true) :
    decodeLists name (entries.map Prod.fst)
        (Json.pretty (.object (ofEntries entries)) ++ String.ofList white) =
      .ok (entries.map Prod.snd) := by
  obtain ⟨index, hread⟩ := readStruct_pretty name hnodup 0 white
  have hend := skipWhite_all hwhite index
  rw [decodeLists, pretty, String.toList_append, String.toList_ofList, String.toList_ofList, hread]
  simp only [bind, Except.bind, hend]
  rfl

end Fieldwise.Json
