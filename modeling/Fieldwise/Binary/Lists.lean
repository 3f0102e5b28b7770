import Fieldwise.Binary.Error

/-!
# Lists of strings in bytes

A length is one byte if it is small, and otherwise a byte that tells its width and then the length in
that width, low byte first. A string is its length and its UTF-8 bytes, a list of strings its length and
the strings, and several lists stand one after another. `decodeLists` reads what `encodeLists` writes.
-/

namespace Fieldwise.Binary

/-- A number as so many bytes, the low one first. -/
def littleEndian (n : Nat) : (width : Nat) → List UInt8
  | 0 => []
  | width + 1 => n.toUInt8 :: littleEndian (n / 256) width

/-- The number that some bytes stand for, the low one first. -/
def ofLittleEndian : List UInt8 → Nat
  | [] => 0
  | b :: bs => b.toNat + 256 * ofLittleEndian bs

/-! ### Writing -/

/-- A length. -/
def encodeLength (n : Nat) : List UInt8 :=
  if n ≤ 250 then [n.toUInt8]
  else if n < 1 <<< 16 then 251 :: littleEndian n 2
  else if n < 1 <<< 32 then 252 :: littleEndian n 4
  else 253 :: littleEndian n 8

/-- A string. -/
def encodeString (s : String) : List UInt8 :=
  let bytes := Utf8.encodeString s
  encodeLength bytes.length ++ bytes

/-- A list of strings. -/
def encodeStrings (strings : List String) : List UInt8 :=
  encodeLength strings.length ++ strings.flatMap encodeString

/-- Several lists of strings. -/
def encodeLists (lists : List (List String)) : List UInt8 := lists.flatMap encodeStrings

/-! ### Reading -/

/-- Splits off so many bytes. -/
def takeBytes (n : Nat) (bytes : List UInt8) : Except Error (List UInt8 × List UInt8) :=
  let taken := bytes.take n
  if taken.length < n then .error (.unexpectedEnd (n - taken.length))
  else .ok (taken, bytes.drop n)

/-- Reads a number of so many bytes. -/
def readNumber (width : Nat) (bytes : List UInt8) : Except Error (Nat × List UInt8) := do
  let (digits, rest) ← takeBytes width bytes
  .ok (ofLittleEndian digits, rest)

/-- Reads a length. -/
def readLength (kind : LengthKind) : List UInt8 → Except Error (Nat × List UInt8)
  | [] => .error (.unexpectedEnd 1)
  | b :: rest =>
    if b ≤ 250 then .ok (b.toNat, rest)
    else if b = 251 then readNumber 2 rest
    else if b = 252 then readNumber 4 rest
    else if b = 253 then readNumber 8 rest
    else .error (.tooWide kind (b = 255))

/-- Reads a string. -/
def readString (bytes : List UInt8) : Except Error (String × List UInt8) := do
  let (n, rest) ← readLength .bytes bytes
  let (content, rest) ← takeBytes n rest
  match Utf8.decodeString content with
  | .ok s => .ok (s, rest)
  | .error e => .error (.notUtf8 e)

/-- Reads so many strings. -/
def readStrings : (count : Nat) → List UInt8 → Except Error (List String × List UInt8)
  | 0, bytes => .ok ([], bytes)
  | count + 1, bytes => do
    let (s, rest) ← readString bytes
    let (strings, rest) ← readStrings count rest
    .ok (s :: strings, rest)

/-- Reads a list of strings. -/
def readList (bytes : List UInt8) : Except Error (List String × List UInt8) := do
  let (n, rest) ← readLength .items bytes
  readStrings n rest

/-- Reads so many lists of strings. -/
def readLists : (count : Nat) → List UInt8 → Except Error (List (List String) × List UInt8)
  | 0, bytes => .ok ([], bytes)
  | count + 1, bytes => do
    let (strings, rest) ← readList bytes
    let (lists, rest) ← readLists count rest
    .ok (strings :: lists, rest)

/-- Reads bytes as so many lists of strings, with nothing after them. -/
def decodeLists (count : Nat) (bytes : List UInt8) : Except Error (List (List String)) := do
  let (lists, rest) ← readLists count bytes
  if rest.isEmpty then .ok lists else .error (.trailing rest.length)

end Fieldwise.Binary
