import Fieldwise.Proofs.Text.Utf8
import Mathlib.Order.Monotone.Basic

/-!
# Offsets in UTF-8

A place in a text is a number of characters, an offset in its bytes a number of bytes. `offset` goes from
places to offsets. It is strictly increasing (`offset_strictMono`), and what it reaches within the bytes of
a text are just the borders of characters (`isBoundary_encode_iff`). `place` goes back from them
(`place_offset`). The bytes between the offsets of two places can be taken, and are those of the characters
between the places (`slice?_offset`).
-/

namespace Fieldwise.Utf8

/-! ### The bytes of a character -/

/-- The first byte of a character does not continue one, and all others do. -/
theorem encodeChar_eq_cons (c : Char) : ∃ b tail, encodeChar c = b :: tail ∧
    isContinuation b = false ∧ ∀ b' ∈ tail, isContinuation b' = true := by
  have hrange := toNat_range c
  have hlead : ∀ n, n < 0x80 ∨ 0xBF < n → n < 256 → isContinuation n.toUInt8 = false := by
    intro n hn hlt
    rw [isContinuation, toNat_toUInt8 hlt, Bool.and_eq_false_iff, decide_eq_false_iff_not,
      decide_eq_false_iff_not]
    omega
  have hrest : ∀ n, isContinuation (0x80 + n % 0x40).toUInt8 = true := fun n =>
    isContinuation_of_toNat (toNat_toUInt8 (by omega))
  simp only [encodeChar]
  split
  · exact ⟨_, _, rfl, hlead _ (by omega) (by omega), List.forall_mem_nil _⟩
  · split
    · exact ⟨_, _, rfl, hlead _ (by omega) (by omega), List.forall_mem_singleton.mpr (hrest _)⟩
    · split
      · exact ⟨_, _, rfl, hlead _ (by omega) (by omega),
          List.forall_mem_cons.mpr ⟨hrest _, List.forall_mem_singleton.mpr (hrest _)⟩⟩
      · exact ⟨_, _, rfl, hlead _ (by omega) (by omega), List.forall_mem_cons.mpr
          ⟨hrest _, List.forall_mem_cons.mpr ⟨hrest _, List.forall_mem_singleton.mpr (hrest _)⟩⟩⟩

theorem width_pos (c : Char) : 0 < width c := by
  obtain ⟨b, tail, hc, -⟩ := encodeChar_eq_cons c
  rw [width, hc]
  exact Nat.succ_pos _

theorem encode_cons (c : Char) (text : List Char) : encode (c :: text) = encodeChar c ++ encode text := rfl

theorem encode_append (text text' : List Char) : encode (text ++ text') = encode text ++ encode text' :=
  List.flatMap_append

/-- The first character of the bytes of a text is that of the text. -/
theorem head?_encode (text : List Char) : head? (encode text) = text.head? := by
  cases text with
  | nil => rfl
  | cons c text =>
    obtain ⟨b, tail, hcons, hread⟩ := decodeChar_encodeChar c (encode text)
    rw [encode_cons, hcons, head?, hread]
    rfl

/-! ### Offsets -/

/-- The offset of a place in a text. Behind the end of the text offsets go on byte by byte. -/
def offset : List Char → Nat → Nat
  | _, 0 => 0
  | [], k + 1 => k + 1
  | c :: text, k + 1 => width c + offset text k

variable {text : List Char} {i j k n : Nat}

@[simp] theorem offset_zero (text : List Char) : offset text 0 = 0 := by cases text <;> rfl

/-- From a place to the next one the offset grows by the character that stands there. -/
theorem offset_succ (text : List Char) (k : Nat) :
    offset text (k + 1) = offset text k + ((text.drop k).head?.map width).getD 1 := by
  induction text generalizing k with
  | nil => cases k <;> simp [offset]
  | cons c text ih =>
    cases k with
    | zero => simp [offset]
    | succ k => rw [offset, ih, offset, List.drop_succ_cons, Nat.add_assoc]

theorem offset_strictMono (text : List Char) : StrictMono (offset text) := by
  refine strictMono_nat_of_lt_succ fun k => ?_
  rw [offset_succ]
  cases (text.drop k).head? with
  | none => exact Nat.lt_succ_self _
  | some c => exact Nat.lt_add_of_pos_right (width_pos c)

/-- The bytes before the offset of a place are those of the characters before the place, and the bytes
from there on those of the characters from there on. -/
theorem splitAt_offset (text : List Char) (k : Nat) :
    (encode text).take (offset text k) = encode (text.take k) ∧
      (encode text).drop (offset text k) = encode (text.drop k) := by
  induction text generalizing k with
  | nil => simp [encode]
  | cons c text ih =>
    cases k with
    | zero => simp [encode]
    | succ k =>
      obtain ⟨htake, hdrop⟩ := ih k
      rw [offset, width, encode_cons, List.take_length_add_append, List.drop_length_add_append, htake,
        hdrop, List.take_succ_cons, List.drop_succ_cons, encode_cons]
      exact ⟨rfl, rfl⟩

/-- The end of a text is the end of its bytes. -/
theorem offset_length (text : List Char) : offset text text.length = (encode text).length := by
  induction text with
  | nil => rfl
  | cons c text ih => rw [List.length_cons, offset, ih, encode_cons, List.length_append, width]

/-! ### Borders of characters -/

/-- Whether an offset is a border does not depend on what stands in front of the bytes. -/
theorem isBoundary_append (bytes bytes' : List UInt8) (n : Nat) :
    isBoundary (bytes ++ bytes') (bytes.length + n) = isBoundary bytes' n := by
  rw [isBoundary, isBoundary, List.getElem?_append_right (Nat.le_add_right _ _), Nat.add_sub_cancel_left,
    List.length_append]
  cases bytes'[n]? with
  | some b => rfl
  | none =>
    rw [Bool.eq_iff_iff, beq_iff_eq, beq_iff_eq, Nat.add_left_cancel_iff]

/-- There is no border inside a character. -/
theorem isBoundary_encodeChar_append {c : Char} {bytes : List UInt8} (hn : 0 < n) (hlt : n < width c) :
    isBoundary (encodeChar c ++ bytes) n = false := by
  obtain ⟨b, tail, hc, -, htail⟩ := encodeChar_eq_cons c
  obtain ⟨n, rfl⟩ := Nat.exists_eq_add_one_of_ne_zero hn.ne'
  rw [width, hc, List.length_cons, Nat.add_lt_add_iff_right] at hlt
  rw [isBoundary, hc, List.cons_append, List.getElem?_cons_succ, List.getElem?_append_left hlt,
    List.getElem?_eq_getElem hlt]
  exact congrArg not (htail _ (List.getElem_mem hlt))

/-- The borders of characters are the offsets of the places in a text. -/
theorem isBoundary_encode_iff :
    isBoundary (encode text) n = true ↔ ∃ k, k ≤ text.length ∧ offset text k = n := by
  induction text generalizing n with
  | nil =>
    constructor
    · intro h
      exact ⟨0, Nat.le_refl 0, (beq_iff_eq.mp h).symm⟩
    · rintro ⟨k, hk, rfl⟩
      rw [Nat.le_zero.mp hk]
      rfl
  | cons c text ih =>
    rcases Nat.lt_or_ge n (width c) with hlt | hge
    · rcases Nat.eq_zero_or_pos n with rfl | hn
      · obtain ⟨b, tail, hc, hb, -⟩ := encodeChar_eq_cons c
        rw [isBoundary, encode_cons, hc]
        exact iff_of_true (congrArg not hb) ⟨0, Nat.zero_le _, rfl⟩
      · rw [encode_cons, isBoundary_encodeChar_append hn hlt]
        refine iff_of_false Bool.false_ne_true ?_
        rintro ⟨_ | k, -, hk⟩
        · exact hn.ne hk
        · rw [offset] at hk
          omega
    · obtain ⟨n, rfl⟩ := Nat.exists_eq_add_of_le hge
      rw [encode_cons, width, isBoundary_append, ih]
      constructor
      · rintro ⟨k, hk, rfl⟩
        exact ⟨k + 1, Nat.succ_le_succ hk, rfl⟩
      · rintro ⟨_ | k, hk, heq⟩
        · have hpos := width_pos c
          rw [width] at hpos
          rw [offset_zero] at heq
          omega
        · exact ⟨k, Nat.le_of_succ_le_succ hk, Nat.add_left_cancel heq⟩

theorem isBoundary_offset (h : k ≤ text.length) : isBoundary (encode text) (offset text k) = true :=
  isBoundary_encode_iff.mpr ⟨k, h, rfl⟩

/-! ### Places -/

/-- The number of characters that begin before an offset. -/
def place (bytes : List UInt8) (offset : Nat) : Nat :=
  (bytes.take offset).countP fun b => !isContinuation b

/-- Each character begins at one byte. -/
theorem countP_encode (text : List Char) :
    (encode text).countP (fun b => !isContinuation b) = text.length := by
  induction text with
  | nil => rfl
  | cons c text ih =>
    obtain ⟨b, tail, hc, hb, htail⟩ := encodeChar_eq_cons c
    have hnone : tail.countP (fun b => !isContinuation b) = 0 := by
      rw [List.countP_eq_zero]
      intro b' hb'
      rw [htail b' hb']
      exact Bool.false_ne_true
    rw [encode_cons, List.countP_append, hc, List.countP_cons_of_pos (by rw [hb]; rfl), hnone, ih,
      List.length_cons, Nat.zero_add, Nat.add_comm]

/-- A place is found again by its offset. -/
theorem place_offset (h : k ≤ text.length) : place (encode text) (offset text k) = k := by
  rw [place, (splitAt_offset text k).1, countP_encode, List.length_take, Nat.min_eq_left h]

/-! ### Slices -/

/-- An offset can be counted from any place before it. -/
theorem offset_add (text : List Char) (i k : Nat) :
    offset text (i + k) = offset text i + offset (text.drop i) k := by
  induction k with
  | zero => rw [Nat.add_zero, offset_zero, Nat.add_zero]
  | succ k ih => rw [← Nat.add_assoc, offset_succ, ih, offset_succ, List.drop_drop, Nat.add_assoc]

/-- Between the offsets of two places stand the bytes of the characters between the places. -/
theorem slice?_offset (hij : i ≤ j) (hj : j ≤ text.length) :
    slice? (encode text) (offset text i) (offset text j) =
      some (encode ((text.drop i).take (j - i))) := by
  obtain ⟨k, rfl⟩ := Nat.exists_eq_add_of_le hij
  have hle : offset text i ≤ offset text (i + k) := (offset_strictMono text).monotone hij
  rw [slice?, isBoundary_offset (Nat.le_trans hij hj), isBoundary_offset hj, decide_eq_true hle]
  refine (if_pos rfl).trans ?_
  rw [(splitAt_offset text i).2, offset_add, Nat.add_sub_cancel_left, Nat.add_sub_cancel_left,
    (splitAt_offset _ k).1]

end Fieldwise.Utf8
