import Fieldwise.Json.Value
import Fieldwise.Proofs.Json.Grammar
import Mathlib.Data.List.Basic

/-!
# JSON strings read back

The reader of strings takes any spelling of a character for the character (`readStringRest_of_spellsChar`): the
character itself, a short escape, or an escape by one number or by two. None of these is taken for the quote
at the end. What the library writes is one of the spellings (`spellsChar_escapeChar`), so that a written
string is read back as the string.
-/

namespace Fieldwise.Json

/-- The reader takes the text for `x` wherever the text stands and whatever follows it. -/
def Reads {α : Type} (read : Cursor → Except Fault (α × Cursor)) (text : List Char) (x : α) : Prop :=
  ∀ (index : Nat) (rest : List Char), ∃ index', read ⟨index, text ++ rest⟩ = .ok (x, ⟨index', rest⟩)

/-! ### The reader of strings, by what comes next -/

section Steps

variable {index : Nat} {rest text : List Char} {after : Cursor}

theorem readStringRest_quote (index : Nat) (rest : List Char) :
    readStringRest ⟨index, '"' :: rest⟩ = .ok ([], ⟨index + 1, rest⟩) := by
  rw [readStringRest]
  rfl

theorem readStringRest_escape {c : Char} {c' : Cursor}
    (hescape : readEscape ⟨index + 1, rest⟩ = .ok (c, c'))
    (hrest : readStringRest c' = .ok (text, after)) :
    readStringRest ⟨index, '\\' :: rest⟩ = .ok (c :: text, after) := by
  rw [readStringRest]
  simp only [if_neg (show '\\' ≠ '"' by decide), if_true]
  split
  · rename_i f hf
    cases hescape.symm.trans hf
  · rename_i c₁ c₁' hc₁
    obtain ⟨rfl, rfl⟩ := Prod.mk.inj (Except.ok.inj (hescape.symm.trans hc₁))
    rw [hrest]

theorem readStringRest_plain {c : Char} (hquote : c ≠ '"') (hescape : c ≠ '\\')
    (hcontrol : ¬c.toNat < 0x20)
    (hrest : readStringRest ⟨index + Utf8.width c, rest⟩ = .ok (text, after)) :
    readStringRest ⟨index, c :: rest⟩ = .ok (c :: text, after) := by
  rw [readStringRest]
  simp only [if_neg hquote, if_neg hescape, if_neg hcontrol, hrest]

/-- An escape of one letter is read as what it stands for. -/
theorem readEscape_simple {letter c : Char} (hu : letter ≠ 'u') (h : simpleEscape? letter = some c) :
    readEscape ⟨index, letter :: rest⟩ = .ok (c, ⟨index + 1, rest⟩) := by
  simp only [readEscape, if_neg hu, h]

end Steps

/-! ### Spellings -/

section Spellings

variable {digits digits' rest text after : List Char} {n m index : Nat} {c : Char}

/-- Four digits are read as the number that they stand for. -/
theorem readHex_of_hexNumber? (h : hexNumber? digits = some n) (index : Nat) (rest : List Char) :
    readHex ⟨index, digits ++ rest⟩ = .ok (n, ⟨index + 4, rest⟩) := by
  unfold hexNumber? at h
  split at h
  · rename_i x₁ x₂ x₃ x₄
    obtain ⟨d₁, h₁, h⟩ := Option.bind_eq_some_iff.mp h
    obtain ⟨d₂, h₂, h⟩ := Option.bind_eq_some_iff.mp h
    obtain ⟨d₃, h₃, h⟩ := Option.bind_eq_some_iff.mp h
    obtain ⟨d₄, h₄, h⟩ := Option.bind_eq_some_iff.mp h
    cases h
    simp only [readHex, List.cons_append, List.nil_append, h₁, h₂, h₃, h₄]
  · cases h

/-- An escape by number is read as the character with that number. -/
theorem readEscape_number (h : hexNumber? digits = some n) (hn : n < 0xD800 ∨ 0xDFFF < n) :
    readEscape ⟨index, 'u' :: (digits ++ rest)⟩ = .ok (Char.ofNat n, ⟨index + 1 + 4, rest⟩) := by
  simp only [readEscape, if_true, readUnicodeEscape, readHex_of_hexNumber? h, bind, Except.bind]
  rw [if_neg (by omega), if_pos (by omega)]

/-- Two surrogates are read as the character whose number they make up. -/
theorem readEscape_pair (h : hexNumber? digits = some n) (h' : hexNumber? digits' = some m)
    (hn : 0xD800 ≤ n ∧ n ≤ 0xDBFF) (hm : 0xDC00 ≤ m ∧ m ≤ 0xDFFF) :
    readEscape ⟨index, 'u' :: (digits ++ '\\' :: 'u' :: (digits' ++ rest))⟩ =
      .ok (Char.ofNat ((n - 0xD800) * 0x400 + (m - 0xDC00) + 0x10000),
        ⟨index + 1 + 4 + 1 + 1 + 4, rest⟩) := by
  simp only [readEscape, if_true, readUnicodeEscape, readHex_of_hexNumber? h, bind, Except.bind]
  rw [if_neg (by omega), if_neg (by omega)]
  simp only [readPairPart, if_true, readHex_of_hexNumber? h']
  rw [if_neg (by omega)]

/-- A character is read back from any spelling of it. -/
theorem readStringRest_of_spellsChar {spelling : List Char} (hc : SpellsChar c spelling)
    (h : ∀ index, ∃ index', readStringRest ⟨index, rest⟩ = .ok (text, ⟨index', after⟩)) (index : Nat) :
    ∃ index', readStringRest ⟨index, spelling ++ rest⟩ = .ok (c :: text, ⟨index', after⟩) := by
  cases hc with
  | plain hquote hbackslash hcontrol =>
    obtain ⟨index', hrest⟩ := h (index + Utf8.width c)
    exact ⟨index', readStringRest_plain hquote hbackslash hcontrol hrest⟩
  | @letter _ letter hletter =>
    have hu : letter ≠ 'u' := by
      rintro rfl
      cases hletter
    obtain ⟨index', hrest⟩ := h (index + 1 + 1)
    exact ⟨index', readStringRest_escape (readEscape_simple hu hletter) hrest⟩
  | number hnumber hn =>
    obtain ⟨index', hrest⟩ := h (index + 1 + 1 + 4)
    exact ⟨index', readStringRest_escape (readEscape_number hnumber hn) hrest⟩
  | pair hhigh hlow hn hm =>
    obtain ⟨index', hrest⟩ := h (index + 1 + 1 + 4 + 1 + 1 + 4)
    refine ⟨index', ?_⟩
    simp only [List.append_assoc, List.cons_append]
    exact readStringRest_escape (readEscape_pair hhigh hlow hn hm) hrest

/-- A string is read back from any spelling of its characters, up to the quote that ends it. -/
theorem reads_of_spellsChars {s spelling : List Char} (h : SpellsChars s spelling) :
    Reads readStringRest (spelling ++ ['"']) s := by
  intro index rest
  induction h generalizing index with
  | nil => exact ⟨_, readStringRest_quote index rest⟩
  | cons hc _ ih =>
    rw [List.append_assoc, List.append_assoc, ← List.append_assoc _ ['"'] rest]
    exact readStringRest_of_spellsChar hc ih index

end Spellings

/-! ### What is written -/

/-- A character is written as one of its spellings. -/
theorem spellsChar_escapeChar (c : Char) : SpellsChar c (escapeChar c) := by
  -- seven escapes of one letter, the other control characters by number, and what is written as itself
  unfold escapeChar
  split_ifs with h₁ h₂ h₃ h₄ h₅ h₆ h₇ h₈
  · exact .letter (by rw [h₁]; rfl)
  · exact .letter (by rw [h₂]; rfl)
  · exact .letter (by rw [h₃]; rfl)
  · exact .letter (by rw [h₄]; rfl)
  · exact .letter (by rw [h₅]; rfl)
  · exact .letter (by rw [h₆]; rfl)
  · exact .letter (by rw [h₇]; rfl)
  · have hzero : Hex.digitValue? '0' = some 0 := by decide
    have hhigh := Hex.digitValue?_digit (c.toNat / 16) (by omega)
    have hlow := Hex.digitValue?_digit (c.toNat % 16) (by omega)
    have hnumber : ((0 * 16 + 0) * 16 + c.toNat / 16) * 16 + c.toNat % 16 = c.toNat := by omega
    have hdigits : hexNumber? ['0', '0', Hex.digit (c.toNat / 16), Hex.digit (c.toNat % 16)] =
        some c.toNat := by
      simp only [hexNumber?, hzero, hhigh, hlow, Option.bind_eq_bind, Option.bind_some, hnumber]
    have h := SpellsChar.number hdigits (.inl (by omega))
    rwa [Char.ofNat_toNat] at h
  · exact .plain h₁ h₂ h₈

theorem spellsChars_escaped (text : List Char) : SpellsChars text (text.flatMap escapeChar) := by
  induction text with
  | nil => exact .nil
  | cons c text ih =>
    rw [List.flatMap_cons]
    exact .cons (spellsChar_escapeChar c) ih

/-- A text is read back from what its characters are written as, up to the quote that ends it. -/
theorem reads_escaped (text : List Char) : Reads readStringRest (text.flatMap escapeChar ++ ['"']) text :=
  reads_of_spellsChars (spellsChars_escaped text)

end Fieldwise.Json
