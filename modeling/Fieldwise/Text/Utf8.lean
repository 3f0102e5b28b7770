/-!
# UTF-8

`Utf8.encode` writes a text as bytes and `Utf8.decode` reads it back. Bytes that are no UTF-8 are
refused with the place where the valid part ends. `Utf8.slice?` takes the bytes between two offsets, which
have to be borders of characters.
-/

namespace Fieldwise.Utf8

/-- The bytes of a character. -/
def encodeChar (c : Char) : List UInt8 :=
  let n := c.toNat
  if n < 0x80 then [n.toUInt8]
  else if n < 0x800 then [(0xC0 + n / 0x40).toUInt8, (0x80 + n % 0x40).toUInt8]
  else if n < 0x10000 then
    [(0xE0 + n / 0x1000).toUInt8, (0x80 + n / 0x40 % 0x40).toUInt8, (0x80 + n % 0x40).toUInt8]
  else
    [(0xF0 + n / 0x40000).toUInt8, (0x80 + n / 0x1000 % 0x40).toUInt8,
      (0x80 + n / 0x40 % 0x40).toUInt8, (0x80 + n % 0x40).toUInt8]

/-- The number of bytes of a character. -/
def width (c : Char) : Nat := (encodeChar c).length

/-- The bytes of a text. -/
def encode (text : List Char) : List UInt8 := text.flatMap encodeChar

/-- The bytes of a string. -/
def encodeString (s : String) : List UInt8 := encode s.toList

/-- The number of bytes of a string. -/
def size (s : String) : Nat := (encodeString s).length

/-- Where bytes stop being UTF-8: after `validUpTo` bytes, at a faulty sequence of `faulty` bytes, or
at a sequence that the end cuts off. -/
structure Error where
  validUpTo : Nat
  faulty : Option Nat
  deriving BEq, DecidableEq, Repr

/-- What is wrong, in words. -/
def Error.message (e : Error) : String :=
  match e.faulty with
  | some n =>
    "invalid utf-8 sequence of " ++ toString n ++ " bytes from index " ++ toString e.validUpTo
  | none => "incomplete utf-8 byte sequence from index " ++ toString e.validUpTo

/-- The number of bytes of a character by its first byte, and the values that the second byte may
have. -/
def leadInfo? (b : Nat) : Option (Nat × Nat × Nat) :=
  if b < 0x80 then some (1, 0, 0)
  else if b < 0xC2 then none
  else if b < 0xE0 then some (2, 0x80, 0xBF)
  else if b = 0xE0 then some (3, 0xA0, 0xBF)
  else if b = 0xED then some (3, 0x80, 0x9F)
  else if b < 0xF0 then some (3, 0x80, 0xBF)
  else if b = 0xF0 then some (4, 0x90, 0xBF)
  else if b < 0xF4 then some (4, 0x80, 0xBF)
  else if b = 0xF4 then some (4, 0x80, 0x8F)
  else none

/-- Whether a byte continues a character. -/
def isContinuation (b : UInt8) : Bool := 0x80 ≤ b.toNat && b.toNat ≤ 0xBF

/-- The first character of some bytes that are not empty, and the rest. Without a character, the
number of faulty bytes, if the end does not cut the character off. -/
def decodeChar (b : UInt8) (rest : List UInt8) : Except (Option Nat) (Char × List UInt8) :=
  match leadInfo? b.toNat with
  | none => .error (some 1)
  | some (width, lo, hi) =>
    if width = 1 then .ok (Char.ofNat b.toNat, rest)
    else
      match rest with
      | [] => .error none
      | b₁ :: rest =>
        if b₁.toNat < lo || hi < b₁.toNat then .error (some 1)
        else if width = 2 then .ok (Char.ofNat ((b.toNat - 0xC0) * 0x40 + (b₁.toNat - 0x80)), rest)
        else
          match rest with
          | [] => .error none
          | b₂ :: rest =>
            if !isContinuation b₂ then .error (some 2)
            else if width = 3 then
              .ok (Char.ofNat ((b.toNat - 0xE0) * 0x1000 + (b₁.toNat - 0x80) * 0x40 +
                (b₂.toNat - 0x80)), rest)
            else
              match rest with
              | [] => .error none
              | b₃ :: rest =>
                if !isContinuation b₃ then .error (some 3)
                else
                  .ok (Char.ofNat ((b.toNat - 0xF0) * 0x40000 + (b₁.toNat - 0x80) * 0x1000 +
                    (b₂.toNat - 0x80) * 0x40 + (b₃.toNat - 0x80)), rest)

theorem length_decodeChar {b : UInt8} {rest rest' : List UInt8} {c : Char}
    (h : decodeChar b rest = .ok (c, rest')) : rest'.length ≤ rest.length := by
  unfold decodeChar at h
  repeat' split at h
  all_goals first
    | (simp only [Except.ok.injEq, Prod.mk.injEq] at h; obtain ⟨-, rfl⟩ := h; simp <;> omega)
    | simp at h

/-- The text of some bytes, of which `done` come before. -/
def decodeFrom (done : Nat) (bytes : List UInt8) : Except Error (List Char) :=
  match bytes with
  | [] => .ok []
  | b :: rest =>
    match _h : decodeChar b rest with
    | .error faulty => .error ⟨done, faulty⟩
    | .ok (c, rest') => do
      let text ← decodeFrom (done + width c) rest'
      .ok (c :: text)
  termination_by bytes.length
  decreasing_by
    have := length_decodeChar _h
    simp only [List.length_cons]
    omega

/-- The text of some bytes. -/
def decode (bytes : List UInt8) : Except Error (List Char) := decodeFrom 0 bytes

/-- The string of some bytes. -/
def decodeString (bytes : List UInt8) : Except Error String := (decode bytes).map String.ofList

/-- The first character of some bytes. -/
def head? : List UInt8 → Option Char
  | [] => none
  | b :: rest =>
    match decodeChar b rest with
    | .ok (c, _) => some c
    | .error _ => none

/-- Whether an offset is a border of characters: the end of the bytes, or the offset of a byte that does
not continue a character. -/
def isBoundary (bytes : List UInt8) (offset : Nat) : Bool :=
  match bytes[offset]? with
  | some b => !isContinuation b
  | none => offset == bytes.length

/-- The bytes from one offset up to another, unless they are reversed or one of them is out of range or
inside a character. -/
def slice? (bytes : List UInt8) (start stop : Nat) : Option (List UInt8) :=
  if start ≤ stop && isBoundary bytes start && isBoundary bytes stop then
    some ((bytes.drop start).take (stop - start))
  else none

end Fieldwise.Utf8
