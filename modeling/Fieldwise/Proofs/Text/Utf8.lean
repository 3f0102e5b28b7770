import Fieldwise.Text.Utf8
import Mathlib.Data.List.Basic

/-!
# UTF-8 read back

Decoding gives back every text from its bytes (`decodeString_encodeString`). A character tells by its
first byte how many bytes it has, so that what follows it makes no difference to how it is read
(`decodeChar_encodeChar`); there is one case for each of the four lengths.
-/

namespace Fieldwise.Utf8

/-! ### Characters -/

theorem toNat_toUInt8 {n : Nat} (h : n < 256) : n.toUInt8.toNat = n := by
  rw [Nat.toUInt8, UInt8.toNat_ofNat']
  exact Nat.mod_eq_of_lt h

/-- A character's number is below the surrogates or above them. -/
theorem toNat_range (c : Char) : c.toNat < 0xD800 ∨ 0xDFFF < c.toNat ∧ c.toNat < 0x110000 := c.valid

/-- A byte that gives six more bits of a number continues a character. -/
theorem isContinuation_of_toNat {b : UInt8} {n : Nat} (h : b.toNat = 0x80 + n % 0x40) :
    isContinuation b = true := by
  simp only [isContinuation, h, Bool.and_eq_true, decide_eq_true_eq]
  omega

/-- The first of three bytes. At the ends of its range the second byte `s` has a range of its own. -/
theorem leadInfo?_three {n s : Nat} (hlo : 0xE0 ≤ n) (hhi : n < 0xF0) (h80 : 0x80 ≤ s)
    (hBF : s ≤ 0xBF) (hE0 : n = 0xE0 → 0xA0 ≤ s) (hED : n = 0xED → s ≤ 0x9F) :
    ∃ lo hi, leadInfo? n = some (3, lo, hi) ∧ lo ≤ s ∧ s ≤ hi := by
  by_cases h₁ : n = 0xE0
  · exact ⟨0xA0, 0xBF, by grind [leadInfo?], hE0 h₁, hBF⟩
  by_cases h₂ : n = 0xED
  · exact ⟨0x80, 0x9F, by grind [leadInfo?], h80, hED h₂⟩
  · exact ⟨0x80, 0xBF, by grind [leadInfo?], h80, hBF⟩

/-- The first of four bytes, with the second byte `s`. -/
theorem leadInfo?_four {n s : Nat} (hlo : 0xF0 ≤ n) (hhi : n < 0xF5) (h80 : 0x80 ≤ s)
    (hBF : s ≤ 0xBF) (hF0 : n = 0xF0 → 0x90 ≤ s) (hF4 : n = 0xF4 → s ≤ 0x8F) :
    ∃ lo hi, leadInfo? n = some (4, lo, hi) ∧ lo ≤ s ∧ s ≤ hi := by
  by_cases h₁ : n = 0xF0
  · exact ⟨0x90, 0xBF, by grind [leadInfo?], hF0 h₁, hBF⟩
  by_cases h₂ : n = 0xF4
  · exact ⟨0x80, 0x8F, by grind [leadInfo?], h80, hF4 h₂⟩
  · exact ⟨0x80, 0xBF, by grind [leadInfo?], h80, hBF⟩

section Widths

variable {c : Char} {b b₁ b₂ b₃ : UInt8} {rest : List UInt8}

theorem decodeChar_one (h : c.toNat < 0x80) (hb : b.toNat = c.toNat) :
    decodeChar b rest = .ok (c, rest) := by
  have hlead : leadInfo? c.toNat = some (1, 0, 0) := if_pos h
  simp only [decodeChar, hb, hlead, if_true, Char.ofNat_toNat]

theorem decodeChar_two (hlo : 0x80 ≤ c.toNat) (hhi : c.toNat < 0x800)
    (hb : b.toNat = 0xC0 + c.toNat / 0x40) (hb₁ : b₁.toNat = 0x80 + c.toNat % 0x40) :
    decodeChar b (b₁ :: rest) = .ok (c, rest) := by
  have hlead : leadInfo? b.toNat = some (2, 0x80, 0xBF) := by grind [leadInfo?]
  have hsecond : (decide (b₁.toNat < 0x80) || decide (0xBF < b₁.toNat)) = false := by grind
  have hsum : (b.toNat - 0xC0) * 0x40 + (b₁.toNat - 0x80) = c.toNat := by omega
  simp [decodeChar, hlead, hsecond, hsum]

theorem decodeChar_three (hlo : 0x800 ≤ c.toNat) (hhi : c.toNat < 0x10000)
    (hb : b.toNat = 0xE0 + c.toNat / 0x1000) (hb₁ : b₁.toNat = 0x80 + c.toNat / 0x40 % 0x40)
    (hb₂ : b₂.toNat = 0x80 + c.toNat % 0x40) :
    decodeChar b (b₁ :: b₂ :: rest) = .ok (c, rest) := by
  have hrange := toNat_range c
  obtain ⟨lo, hi, hlead, hlo₁, hhi₁⟩ := leadInfo?_three (n := b.toNat) (s := b₁.toNat)
    (by omega) (by omega) (by omega) (by omega) (by omega) (by omega)
  have hsecond : (decide (b₁.toNat < lo) || decide (hi < b₁.toNat)) = false := by grind
  have hsum : (b.toNat - 0xE0) * 0x1000 + (b₁.toNat - 0x80) * 0x40 + (b₂.toNat - 0x80) = c.toNat := by
    omega
  simp [decodeChar, hlead, hsecond, isContinuation_of_toNat hb₂, hsum]

theorem decodeChar_four (hlo : 0x10000 ≤ c.toNat) (hb : b.toNat = 0xF0 + c.toNat / 0x40000)
    (hb₁ : b₁.toNat = 0x80 + c.toNat / 0x1000 % 0x40) (hb₂ : b₂.toNat = 0x80 + c.toNat / 0x40 % 0x40)
    (hb₃ : b₃.toNat = 0x80 + c.toNat % 0x40) :
    decodeChar b (b₁ :: b₂ :: b₃ :: rest) = .ok (c, rest) := by
  have hrange := toNat_range c
  obtain ⟨lo, hi, hlead, hlo₁, hhi₁⟩ := leadInfo?_four (n := b.toNat) (s := b₁.toNat)
    (by omega) (by omega) (by omega) (by omega) (by omega) (by omega)
  have hsecond : (decide (b₁.toNat < lo) || decide (hi < b₁.toNat)) = false := by grind
  have hsum : (b.toNat - 0xF0) * 0x40000 + (b₁.toNat - 0x80) * 0x1000 + (b₂.toNat - 0x80) * 0x40 +
      (b₃.toNat - 0x80) = c.toNat := by
    omega
  simp [decodeChar, hlead, hsecond, isContinuation_of_toNat hb₂, isContinuation_of_toNat hb₃, hsum]

end Widths

/-- A character is read back from its bytes, whatever follows them. -/
theorem decodeChar_encodeChar (c : Char) (rest : List UInt8) :
    ∃ b tail, encodeChar c ++ rest = b :: tail ∧ decodeChar b tail = .ok (c, rest) := by
  have hrange := toNat_range c
  simp only [encodeChar]
  split
  · exact ⟨_, _, rfl, decodeChar_one ‹_› (toNat_toUInt8 (by omega))⟩
  · split
    · exact ⟨_, _, rfl, decodeChar_two (by omega) ‹_› (toNat_toUInt8 (by omega))
        (toNat_toUInt8 (by omega))⟩
    · split
      · exact ⟨_, _, rfl, decodeChar_three (by omega) ‹_› (toNat_toUInt8 (by omega))
          (toNat_toUInt8 (by omega)) (toNat_toUInt8 (by omega))⟩
      · exact ⟨_, _, rfl, decodeChar_four (by omega) (toNat_toUInt8 (by omega))
          (toNat_toUInt8 (by omega)) (toNat_toUInt8 (by omega)) (toNat_toUInt8 (by omega))⟩

/-! ### Texts -/

/-- From whatever place on, a text is read back from its bytes. -/
theorem decodeFrom_encode (done : Nat) (text : List Char) : decodeFrom done (encode text) = .ok text := by
  induction text generalizing done with
  | nil => rw [encode, List.flatMap_nil, decodeFrom]
  | cons c text ih =>
    obtain ⟨b, tail, hcons, hread⟩ := decodeChar_encodeChar c (encode text)
    rw [encode, List.flatMap_cons, ← encode, hcons, decodeFrom]
    split
    · rename_i faulty hfaulty
      cases hread.symm.trans hfaulty
    · rename_i c' rest' hc'
      obtain ⟨rfl, rfl⟩ := Prod.mk.inj (Except.ok.inj (hread.symm.trans hc'))
      rw [ih]
      rfl

/-- A string is read back from its bytes. -/
theorem decodeString_encodeString (s : String) : decodeString (encodeString s) = .ok s := by
  rw [decodeString, decode, encodeString, decodeFrom_encode]
  exact congrArg Except.ok String.ofList_toList

theorem encodeString_injective : Function.Injective encodeString := fun s t h =>
  Except.ok.inj (by rw [← decodeString_encodeString s, h, decodeString_encodeString t])

end Fieldwise.Utf8
