import Fieldwise.Proofs.Json.Lists

/-!
# What is written is JSON

The text of a document that the library writes is a text of the grammar and stands for that document
(`spells_prettyAt`). The layout puts each element and each member on a line of its own: the white space ahead of
it is the beginning of the line, and there is none ahead of a comma (`prettyElements_eq`, `prettyMembers_eq`).
A number is written without zeros ahead of it, as the grammar wants it (`isWhole_toDigits`).
-/

namespace Fieldwise.Json

/-! ### Numbers -/

/-- The first digit of a number other than zero is not a zero. -/
theorem head?_toDigits_ne_zero {n : Nat} (hn : n ≠ 0) : (Nat.toDigits 10 n).head? ≠ some '0' := by
  induction n using Nat.strongRecOn with
  | _ n ih =>
    rcases Nat.lt_or_ge n 10 with hlt | hle
    · rw [Nat.toDigits_of_lt_base hlt, List.head?_cons, ne_eq, Option.some.injEq]
      intro h
      have hdigit := Nat.toNat_digitChar_of_lt_ten hlt
      rw [h] at hdigit
      exact hn (Nat.left_eq_add.mp hdigit)
    · -- the last digit goes, and what is left is not zero
      have hrest := ih (n / 10) (by omega) (by omega)
      rwa [Nat.toDigits_of_base_le (by decide) hle, List.head?_append_of_ne_nil _ Nat.toDigits_ne_nil]

theorem isDigits_toDigits (n : Nat) : IsDigits (Nat.toDigits 10 n) :=
  ⟨Nat.toDigits_ne_nil, fun _ hc => Nat.isDigit_of_mem_toDigits (by decide) (by decide) hc⟩

theorem isWhole_toDigits (n : Nat) : IsWhole (Nat.toDigits 10 n) := by
  by_cases hn : n = 0
  · subst hn
    exact .zero
  · have hdigits := isDigits_toDigits n
    have hhead := head?_toDigits_ne_zero hn
    obtain ⟨c, cs, hcons⟩ := List.exists_cons_of_ne_nil (Nat.toDigits_ne_nil (n := n) (b := 10))
    rw [hcons] at hdigits hhead ⊢
    exact .digits (fun hc => hhead (congrArg some hc)) hdigits

theorem isNumeral_toString (n : Nat) : IsNumeral (toString n).toList := by
  have h := IsNumeral.parts (.inl rfl) (isWhole_toDigits n) .none .none
  rwa [List.nil_append, List.append_nil, List.append_nil, ← Nat.toList_repr] at h

/-! ### Layout -/

mutual

/-- What the text of a document stands for. -/
def document : Json → Document
  | .number n => .number (toString n)
  | .string s => .string s
  | .array elements => .array (documents elements)
  | .object members => .object (namedDocuments members)

/-- What the texts of elements stand for. -/
def documents : List Json → List Document
  | [] => []
  | e :: es => e.document :: documents es

/-- What the texts of members stand for. -/
def namedDocuments : List (String × Json) → List (String × Document)
  | [] => []
  | (k, v) :: ms => (k, v.document) :: namedDocuments ms

end

/-- An element on a line of its own. -/
def lineElement (level : Nat) (e : Json) : Element where
  gap := []
  indent := newline level
  text := e.prettyAt level
  document := e.document

/-- A member on a line of its own. -/
def lineMember (level : Nat) (m : String × Json) : Member where
  gap := []
  indent := newline level
  text := quoted m.1 ++ ':' :: ' ' :: m.2.prettyAt level
  name := m.1
  key := m.1.toList.flatMap escapeChar
  beforeColon := []
  afterColon := [' ']
  value := m.2.prettyAt level
  document := m.2.document

theorem lineElement_isSpaced (level : Nat) (e : Json) : (lineElement level e).IsSpaced where
  gap := nofun
  indent := isWhite_newline level

theorem lineMember_isSpaced (level : Nat) (m : String × Json) : (lineMember level m).IsSpaced where
  gap := nofun
  indent := isWhite_newline level

theorem lineMember_isNamed (level : Nat) (m : String × Json) : (lineMember level m).IsNamed where
  text_eq := by
    simp only [lineMember, quoted, List.cons_append, List.append_assoc, List.nil_append]
  key := spellsChars_escaped m.1.toList
  beforeColon := nofun
  afterColon := List.forall_mem_singleton.mpr rfl

theorem documents_eq (level : Nat) (elements : List Json) :
    documents elements = (elements.map (lineElement level)).map Element.document := by
  induction elements with
  | nil => rfl
  | cons e es ih => rw [documents, ih]; rfl

theorem namedDocuments_eq (level : Nat) (members : List (String × Json)) :
    namedDocuments members =
      (members.map (lineMember level)).map fun m => (m.name, m.document) := by
  induction members with
  | nil => rfl
  | cons m ms ih => rw [namedDocuments, ih]; rfl

/-- The elements after the first stand on lines of their own, and so does the end of the array. -/
theorem prettyElements_eq (level : Nat) (elements : List Json) :
    prettyElements level elements =
      ((elements.map (lineElement (level + 1))).map Element.toPart).flatMap Part.next ++
        (newline level ++ [']']) := by
  induction elements with
  | nil => rfl
  | cons e es ih =>
    rw [prettyElements, ih]
    simp only [List.map_cons, List.flatMap_cons, Part.next, Part.first, lineElement, List.nil_append,
      List.cons_append, List.append_assoc]

/-- The members after the first stand on lines of their own, and so does the end of the object. -/
theorem prettyMembers_eq (level : Nat) (members : List (String × Json)) :
    prettyMembers level members =
      ((members.map (lineMember (level + 1))).map Member.toPart).flatMap Part.next ++
        (newline level ++ ['}']) := by
  induction members with
  | nil => rfl
  | cons m ms ih =>
    rw [prettyMembers, ih]
    simp only [List.map_cons, List.flatMap_cons, Part.next, Part.first, lineMember, List.nil_append,
      List.cons_append, List.append_assoc]

/-- An array without elements has no lines; any other has its end on a line of its own. -/
theorem prettyAt_array (level : Nat) (elements : List Json) :
    ∃ white, IsWhite white ∧ (Json.array elements).prettyAt level =
      '[' :: (separated ((elements.map (lineElement (level + 1))).map Element.toPart) ++ white ++ [']']) := by
  cases elements with
  | nil => exact ⟨[], nofun, rfl⟩
  | cons e es =>
    refine ⟨newline level, isWhite_newline level, ?_⟩
    rw [prettyAt, prettyElements_eq]
    simp only [List.map_cons, separated, Part.first, lineElement, List.cons_append, List.append_assoc]

/-- An object without members has no lines; any other has its end on a line of its own. -/
theorem prettyAt_object (level : Nat) (members : List (String × Json)) :
    ∃ white, IsWhite white ∧ (Json.object members).prettyAt level =
      '{' :: (separated ((members.map (lineMember (level + 1))).map Member.toPart) ++ white ++ ['}']) := by
  cases members with
  | nil => exact ⟨[], nofun, rfl⟩
  | cons m ms =>
    refine ⟨newline level, isWhite_newline level, ?_⟩
    rw [prettyAt, prettyMembers_eq]
    simp only [List.map_cons, separated, Part.first, lineMember, List.cons_append, List.append_assoc]

/-! ### Documents -/

mutual

/-- The text of a document stands for the document. -/
theorem spells_prettyAt (level : Nat) : (j : Json) → Spells j.document (j.prettyAt level)
  | .number n => by
    have h := Spells.number (isNumeral_toString n)
    rwa [String.ofList_toList] at h
  | .string s => .string (spellsChars_escaped s.toList)
  | .array elements => by
    obtain ⟨white, hwhite, htext⟩ := prettyAt_array level elements
    rw [htext, document, documents_eq (level + 1)]
    exact .array (List.forall_mem_map.mpr fun e _ => lineElement_isSpaced (level + 1) e) hwhite
      (List.forall_mem_map.mpr (spells_elements (level + 1) elements))
  | .object members => by
    obtain ⟨white, hwhite, htext⟩ := prettyAt_object level members
    rw [htext, document, namedDocuments_eq (level + 1)]
    exact .object (List.forall_mem_map.mpr fun m _ => lineMember_isSpaced (level + 1) m)
      (List.forall_mem_map.mpr fun m _ => lineMember_isNamed (level + 1) m) hwhite
      (List.forall_mem_map.mpr (spells_members (level + 1) members))

theorem spells_elements (level : Nat) :
    (elements : List Json) → ∀ e ∈ elements, Spells e.document (e.prettyAt level)
  | [] => nofun
  | e :: es => List.forall_mem_cons.mpr ⟨spells_prettyAt level e, spells_elements level es⟩

theorem spells_members (level : Nat) :
    (members : List (String × Json)) → ∀ m ∈ members, Spells m.2.document (m.2.prettyAt level)
  | [] => nofun
  | (_, v) :: ms => List.forall_mem_cons.mpr ⟨spells_prettyAt level v, spells_members level ms⟩

end

/-- The text of a document is a JSON text, also as a line. -/
theorem isText_pretty_line (j : Json) : IsText j.document (j.pretty ++ "\n").toList := by
  have hline : IsWhite ['\n'] := List.forall_mem_singleton.mpr rfl
  have h := IsText.around (show IsWhite [] from nofun) (spells_prettyAt 0 j) hline
  rw [pretty, String.toList_append, String.toList_ofList]
  exact h

end Fieldwise.Json
