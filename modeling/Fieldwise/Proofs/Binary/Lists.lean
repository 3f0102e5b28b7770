import Fieldwise.Binary.Lists
import Fieldwise.Proofs.Text.Utf8
import Mathlib

/-!
# Lists of strings read back from bytes

`Binary.Reads` says that a reader takes some bytes for a value and that these bytes show their own end:
whatever follows them is left over, and none of their beginnings is enough. Readers that are put one
after another keep this (`Reads.bind`, `Reads.all`), so that it carries from lengths to strings, to lists of
strings and to several of these (`reads_lists`). It is what makes an encoding without separators exact
(`decodeLists_encodeLists`, `decodeLists_trailing`, `decodeLists_truncated`).
-/

namespace Fieldwise.Binary

/-- A reader of values at the beginning of bytes, which yields the bytes that are left. -/
abbrev Reader (α : Type) := List UInt8 → Except Error (α × List UInt8)

/-- The reader takes the bytes for `x`. Other bytes may follow and are left over; if the bytes break off,
the reader misses some. -/
structure Reads {α : Type} (read : Reader α) (bytes : List UInt8) (x : α) : Prop where
  append : ∀ rest, read (bytes ++ rest) = .ok (x, rest)
  truncated : ∀ p, p <+: bytes → p ≠ bytes → ∃ n, 0 < n ∧ read p = .error (.unexpectedEnd n)

namespace Reads

variable {α β : Type} {read : Reader α} {bytes bytes' : List UInt8} {x : α} {y : β}

/-- Nothing is read from no bytes. -/
theorem pure (x : α) : Reads (fun bytes => .ok (x, bytes)) [] x where
  append _ := rfl
  truncated _ hp hne := absurd (List.prefix_nil.mp hp) hne

/-- A part of two pieces of bytes is a part of the first or ends in the second. -/
theorem prefix_append_cases {p : List UInt8} (h : p <+: bytes ++ bytes') :
    (p <+: bytes ∧ p ≠ bytes) ∨ ∃ p', p = bytes ++ p' ∧ p' <+: bytes' := by
  rcases List.prefix_or_prefix_of_prefix h (List.prefix_append bytes bytes') with hp | ⟨p', rfl⟩
  · by_cases he : p = bytes
    · exact .inr ⟨[], by rw [he, List.append_nil], List.nil_prefix⟩
    · exact .inl ⟨hp, he⟩
  · exact .inr ⟨p', rfl, (List.prefix_append_right_inj bytes).mp h⟩

/-- One reader after another reads one piece of bytes after another. -/
theorem bind {g : α → Reader β} (h : Reads read bytes x) (h' : Reads (g x) bytes' y) :
    Reads (fun bs => do let (x, rest) ← read bs; g x rest) (bytes ++ bytes') y where
  append rest := by
    rw [List.append_assoc, h.append]
    exact h'.append rest
  truncated p hp hne := by
    -- the bytes break off in what the first reader takes, or in what it leaves to the second
    rcases prefix_append_cases hp with ⟨hp, hne⟩ | ⟨p', rfl, hp'⟩
    · obtain ⟨n, hn, he⟩ := h.truncated p hp hne
      exact ⟨n, hn, by rw [he]; rfl⟩
    · rw [h.append]
      exact h'.truncated p' hp' fun he => hne (by rw [he])

/-- What has been read can be changed. -/
theorem map {f : α → β} (h : Reads read bytes x) :
    Reads (fun bs => do let (x, rest) ← read bs; .ok (f x, rest)) bytes (f x) := by
  have h' := h.bind (g := fun x bs => .ok (f x, bs)) (Reads.pure (f x))
  rwa [List.append_nil] at h'

/-- A reader that reads so many values one after another reads them from their bytes. -/
theorem all {readAll : Nat → Reader (List α)} {encode : α → List UInt8} {xs : List α}
    (hzero : readAll 0 = fun bs => .ok ([], bs))
    (hsucc : ∀ n, readAll (n + 1) = fun bs => do
      let (x, rest) ← read bs
      let found ← readAll n rest
      .ok (x :: found.1, found.2))
    (h : ∀ x ∈ xs, Reads read (encode x) x) : Reads (readAll xs.length) (xs.flatMap encode) xs := by
  induction xs with
  | nil =>
    rw [List.length_nil, hzero]
    exact Reads.pure []
  | cons x xs ih =>
    obtain ⟨hx, hxs⟩ := List.forall_mem_cons.mp h
    rw [List.length_cons, hsucc, List.flatMap_cons]
    exact hx.bind (g := fun x bs => do let found ← readAll xs.length bs; .ok (x :: found.1, found.2))
      ((ih hxs).map (f := (x :: ·)))

end Reads

/-! ### Lengths -/

/-- So many bytes are split off. -/
theorem reads_takeBytes {n : Nat} {content : List UInt8} (h : content.length = n) :
    Reads (takeBytes n) content content where
  append rest := by
    subst h
    simp [takeBytes]
  truncated p hp hne := by
    have hlt : p.length < n := h ▸ lt_of_le_of_ne hp.length_le fun he => hne (hp.eq_of_length he)
    refine ⟨n - p.length, by omega, ?_⟩
    rw [takeBytes, List.take_of_length_le (by omega), if_pos hlt]

theorem length_littleEndian (n width : Nat) : (littleEndian n width).length = width := by
  induction width generalizing n with
  | zero => rfl
  | succ width ih => rw [littleEndian, List.length_cons, ih]

/-- A number is read back from its bytes if these are enough for it. -/
theorem ofLittleEndian_littleEndian {n width : Nat} (h : n < 256 ^ width) :
    ofLittleEndian (littleEndian n width) = n := by
  induction width generalizing n with
  | zero => rw [littleEndian, ofLittleEndian]; omega
  | succ width ih =>
    have hlow : n.toUInt8.toNat = n % 256 := UInt8.toNat_ofNat'
    rw [littleEndian, ofLittleEndian, hlow, ih (by rw [Nat.pow_succ] at h; omega)]
    exact Nat.mod_add_div n 256

theorem reads_number {n width : Nat} (h : n < 256 ^ width) :
    Reads (readNumber width) (littleEndian n width) n := by
  have hread := (reads_takeBytes (length_littleEndian n width)).map (f := ofLittleEndian)
  rwa [ofLittleEndian_littleEndian h] at hread

/-- A mark before a number tells how it is to be read. -/
theorem reads_mark {kind : LengthKind} {mark : UInt8} {width n : Nat}
    (hmark : ∀ rest, readLength kind (mark :: rest) = readNumber width rest) (h : n < 256 ^ width) :
    Reads (readLength kind) (mark :: littleEndian n width) n where
  append rest := by
    rw [List.cons_append, hmark]
    exact (reads_number h).append rest
  truncated p hp hne := by
    match p, hp, hne with
    | [], _, _ => exact ⟨1, Nat.one_pos, rfl⟩
    | b :: p, hp, hne =>
      obtain ⟨rfl, hp'⟩ := List.cons_prefix_cons.mp hp
      rw [hmark]
      exact (reads_number h).truncated p hp' fun he => hne (by rw [he])

/-- A length is read back from its encoding, whichever width this takes. -/
theorem reads_length (kind : LengthKind) {n : Nat} (h : n < 2 ^ 64) :
    Reads (readLength kind) (encodeLength n) n := by
  unfold encodeLength
  split
  · rename_i hn
    have htoNat : n.toUInt8.toNat = n := Utf8.toNat_toUInt8 (by omega)
    have hle : n.toUInt8 ≤ 250 := by
      rw [UInt8.le_iff_toNat_le, htoNat]
      exact hn
    constructor
    · intro rest
      rw [List.cons_append, List.nil_append, readLength, if_pos hle, htoNat]
    · intro p hp hne
      obtain rfl : p = [] := by simpa [hne] using List.prefix_cons_iff.mp hp
      exact ⟨1, Nat.one_pos, rfl⟩
  · split
    · exact reads_mark (fun _ => rfl) (by simpa using ‹n < 1 <<< 16›)
    · split
      · exact reads_mark (fun _ => rfl) (by simpa using ‹n < 1 <<< 32›)
      · exact reads_mark (fun _ => rfl) (by simpa using h)

/-! ### Strings -/

/-- Strings of which a length can be written: no more than fit in eight bytes, and none with more
bytes. -/
structure Encodable (strings : List String) : Prop where
  length_lt : strings.length < 2 ^ 64
  size_lt : ∀ s ∈ strings, Utf8.size s < 2 ^ 64

/-- Reads a string of so many bytes. -/
def readText (n : Nat) : Reader String := fun bytes => do
  let (content, rest) ← takeBytes n bytes
  match Utf8.decodeString content with
  | .ok s => .ok (s, rest)
  | .error e => .error (.notUtf8 e)

theorem reads_text (s : String) : Reads (readText (Utf8.size s)) (Utf8.encodeString s) s := by
  have hbytes : Reads (takeBytes (Utf8.size s)) (Utf8.encodeString s) (Utf8.encodeString s) :=
    reads_takeBytes rfl
  constructor
  · intro rest
    rw [readText, hbytes.append]
    simp only [bind, Except.bind, Utf8.decodeString_encodeString]
  · intro p hp hne
    obtain ⟨n, hn, he⟩ := hbytes.truncated p hp hne
    exact ⟨n, hn, by rw [readText, he]; rfl⟩

/-- The bytes of a string are read back as the string. -/
theorem reads_string {s : String} (h : Utf8.size s < 2 ^ 64) :
    Reads readString (encodeString s) s :=
  (reads_length .bytes h).bind (g := readText) (reads_text s)

theorem reads_strings {strings : List String} (h : ∀ s ∈ strings, Utf8.size s < 2 ^ 64) :
    Reads (readStrings strings.length) (strings.flatMap encodeString) strings :=
  Reads.all rfl (fun _ => rfl) fun s hs => reads_string (h s hs)

theorem reads_list {strings : List String} (h : Encodable strings) :
    Reads readList (encodeStrings strings) strings :=
  (reads_length .items h.length_lt).bind (reads_strings h.size_lt)

/-- Several lists are read back from their bytes. -/
theorem reads_lists {lists : List (List String)} (h : ∀ strings ∈ lists, Encodable strings) :
    Reads (readLists lists.length) (encodeLists lists) lists :=
  Reads.all rfl (fun _ => rfl) fun strings hstrings => reads_list (h strings hstrings)

/-! ### Nothing but lists -/

variable {lists : List (List String)}

/-- What several lists are written as is read back as these lists. -/
theorem decodeLists_encodeLists (h : ∀ strings ∈ lists, Encodable strings) :
    decodeLists lists.length (encodeLists lists) = .ok lists := by
  have hread := (reads_lists h).append []
  rw [List.append_nil] at hread
  rw [decodeLists, hread]
  rfl

/-- Bytes that follow are counted and refused. -/
theorem decodeLists_trailing (h : ∀ strings ∈ lists, Encodable strings) {rest : List UInt8}
    (hrest : rest ≠ []) :
    decodeLists lists.length (encodeLists lists ++ rest) = .error (.trailing rest.length) := by
  rw [decodeLists, (reads_lists h).append]
  show (if rest.isEmpty then _ else _) = _
  rw [if_neg (by simpa using hrest)]

/-- What breaks off is refused. -/
theorem decodeLists_truncated (h : ∀ strings ∈ lists, Encodable strings) {p : List UInt8}
    (hp : p <+: encodeLists lists) (hne : p ≠ encodeLists lists) :
    ∃ n, 0 < n ∧ decodeLists lists.length p = .error (.unexpectedEnd n) := by
  obtain ⟨n, hn, he⟩ := (reads_lists h).truncated p hp hne
  exact ⟨n, hn, by rw [decodeLists, he]; rfl⟩

end Fieldwise.Binary
