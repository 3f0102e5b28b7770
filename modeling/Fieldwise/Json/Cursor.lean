import Fieldwise.Json.Error
import Fieldwise.Text.Hex
import Fieldwise.Text.Utf8

/-!
# Reading JSON from a place on

The readers of the parts of a JSON text: white space, strings, names of constants and numbers. Each
starts at a cursor and yields the cursor after what it has read. Places are counted in bytes.
-/

namespace Fieldwise.Json

/-- The rest of a text, and the number of bytes before it. -/
structure Cursor where
  index : Nat
  rest : List Char
  deriving DecidableEq, Repr

/-- Why reading stopped: something is wrong at a place, or data has the wrong shape, which is yet to
be given a place at or after the cursor. -/
inductive Fault where
  | placed (kind : ErrorKind) (index : Nat)
  | unplaced (why : Mismatch) (cursor : Cursor)

/-- The number of bytes of a text. -/
def bytes (text : List Char) : Nat := text.foldr (fun x n => Utf8.width x + n) 0

/-- Fails after what has been read. -/
def failAt {α : Type} (kind : ErrorKind) (c : Cursor) : Except Fault α :=
  .error (.placed kind c.index)

/-- Fails at the next byte. -/
def failNext {α : Type} (kind : ErrorKind) (c : Cursor) : Except Fault α :=
  .error (.placed kind (if c.rest.isEmpty then c.index else c.index + 1))

/-- Fails with data of the wrong shape, after what has been read. -/
def mismatch {α : Type} (why : Mismatch) (c : Cursor) : Except Fault α :=
  failAt (.mismatch why) c

namespace Cursor

/-- Steps over one character. -/
def bump (c : Cursor) : Cursor :=
  match c.rest with
  | [] => c
  | x :: cs => ⟨c.index + Utf8.width x, cs⟩

/-- Steps over a number of characters that take one byte each. -/
def skip (c : Cursor) (n : Nat) : Cursor := ⟨c.index + n, c.rest.drop n⟩

/-- Whether a character is white space of JSON. -/
def isWhite (x : Char) : Bool := x == ' ' || x == '\n' || x == '\t' || x == '\r'

/-- Steps over white space. -/
def skipWhite (c : Cursor) : Cursor := c.skip (c.rest.takeWhile isWhite).length

theorem length_bump_le (c : Cursor) : c.bump.rest.length ≤ c.rest.length := by
  unfold bump
  split <;> simp [*]

theorem length_bump_lt {c : Cursor} {x : Char} {cs : List Char} (h : c.rest = x :: cs) :
    c.bump.rest.length < c.rest.length := by
  simp [bump, h]

theorem length_skip_le (c : Cursor) (n : Nat) : (c.skip n).rest.length ≤ c.rest.length := by
  simp [skip]

theorem length_skipWhite_le (c : Cursor) : c.skipWhite.rest.length ≤ c.rest.length :=
  length_skip_le c _

end Cursor

/-! ### Strings -/

/-- Reads four hexadecimal digits. -/
def readHex (c : Cursor) : Except Fault (Nat × Cursor) :=
  let invalid : Except Fault (Nat × Cursor) := .error (.placed .invalidEscape (c.index + 4))
  match c.rest with
  | x₁ :: x₂ :: x₃ :: x₄ :: rest =>
    match Hex.digitValue? x₁, Hex.digitValue? x₂, Hex.digitValue? x₃, Hex.digitValue? x₄ with
    | some d₁, some d₂, some d₃, some d₄ =>
      .ok (((d₁ * 16 + d₂) * 16 + d₃) * 16 + d₄, ⟨c.index + 4, rest⟩)
    | _, _, _, _ => invalid
  | few => if bytes few < 4 then .error (.placed .eofInString (c.index + bytes few)) else invalid

/-- Steps over a given character of one byte within the escape of a pair of surrogates. -/
def readPairPart (x : Char) (c : Cursor) : Except Fault Cursor :=
  match c.rest with
  | [] => failAt .eofInString c
  | y :: rest =>
    if y = x then .ok ⟨c.index + 1, rest⟩ else .error (.placed .unfinishedEscape (c.index + 1))

/-- Reads the digits of an escape by number. A leading surrogate needs the escape of a trailing one
after it. -/
def readUnicodeEscape (c : Cursor) : Except Fault (Char × Cursor) := do
  let (n, c) ← readHex c
  if 0xDC00 ≤ n ∧ n ≤ 0xDFFF then failAt .loneSurrogate c
  else if n < 0xD800 ∨ 0xDBFF < n then .ok (Char.ofNat n, c)
  else
    let c ← readPairPart '\\' c
    let c ← readPairPart 'u' c
    let (m, c) ← readHex c
    if m < 0xDC00 ∨ 0xDFFF < m then failAt .loneSurrogate c
    else .ok (Char.ofNat ((n - 0xD800) * 0x400 + (m - 0xDC00) + 0x10000), c)

/-- The character that a one-letter escape stands for. -/
def simpleEscape? : Char → Option Char
  | '"' => some '"'
  | '\\' => some '\\'
  | '/' => some '/'
  | 'b' => some '\x08'
  | 'f' => some '\x0c'
  | 'n' => some '\n'
  | 'r' => some '\r'
  | 't' => some '\t'
  | _ => none

/-- Reads an escape, after the backslash. -/
def readEscape (c : Cursor) : Except Fault (Char × Cursor) :=
  match c.rest with
  | [] => failAt .eofInString c
  | x :: rest =>
    if x = 'u' then readUnicodeEscape ⟨c.index + 1, rest⟩
    else
      match simpleEscape? x with
      | some y => .ok (y, ⟨c.index + 1, rest⟩)
      | none => .error (.placed .invalidEscape (c.index + 1))

@[grind →]
theorem length_readHex {c c' : Cursor} {n : Nat} (h : readHex c = .ok (n, c')) :
    c'.rest.length ≤ c.rest.length := by
  grind [readHex]

@[grind →]
theorem length_readPairPart {x : Char} {c c' : Cursor} (h : readPairPart x c = .ok c') :
    c'.rest.length ≤ c.rest.length := by
  grind [readPairPart, failAt]

@[grind →]
theorem length_readUnicodeEscape {c c' : Cursor} {x : Char}
    (h : readUnicodeEscape c = .ok (x, c')) : c'.rest.length ≤ c.rest.length := by
  simp only [readUnicodeEscape, bind, Except.bind] at h
  repeat' split at h
  all_goals grind [failAt]

@[grind →]
theorem length_readEscape {c c' : Cursor} {x : Char} (h : readEscape c = .ok (x, c')) :
    c'.rest.length ≤ c.rest.length := by
  grind [readEscape, failAt]

/-- Reads the rest of a string, up to and with the quote that ends it. -/
def readStringRest (c : Cursor) : Except Fault (List Char × Cursor) :=
  match _h : c.rest with
  | [] => failAt .eofInString c
  | x :: rest =>
    if x = '"' then .ok ([], ⟨c.index + 1, rest⟩)
    else if x = '\\' then
      match _he : readEscape ⟨c.index + 1, rest⟩ with
      | .error f => .error f
      | .ok (y, c') =>
        match readStringRest c' with
        | .error f => .error f
        | .ok (text, after) => .ok (y :: text, after)
    else if x.toNat < 0x20 then .error (.placed .controlCharacter (c.index + 1))
    else
      match readStringRest ⟨c.index + Utf8.width x, rest⟩ with
      | .error f => .error f
      | .ok (text, after) => .ok (x :: text, after)
  termination_by c.rest.length
  decreasing_by all_goals grind

@[grind →]
theorem length_readStringRest {c c' : Cursor} {text : List Char}
    (h : readStringRest c = .ok (text, c')) : c'.rest.length < c.rest.length := by
  fun_induction readStringRest c generalizing text c' <;> grind [failAt]

/-- Steps over the rest of a string, up to and with the quote that ends it. What escapes stand for
does not matter here. -/
def skipStringRest (c : Cursor) : Except Fault Cursor :=
  match _h : c.rest with
  | [] => failAt .eofInString c
  | x :: rest =>
    if x = '"' then .ok ⟨c.index + 1, rest⟩
    else if x = '\\' then
      match _h₂ : rest with
      | [] => .error (.placed .eofInString (c.index + 1))
      | y :: rest' =>
        if y = 'u' then
          match _he : readHex ⟨c.index + 2, rest'⟩ with
          | .error f => .error f
          | .ok (_, c') => skipStringRest c'
        else if (simpleEscape? y).isSome then skipStringRest ⟨c.index + 2, rest'⟩
        else .error (.placed .invalidEscape (c.index + 2))
    else if x.toNat < 0x20 then failAt .controlCharacter c
    else skipStringRest ⟨c.index + Utf8.width x, rest⟩
  termination_by c.rest.length
  decreasing_by all_goals grind

@[grind →]
theorem length_skipStringRest {c c' : Cursor} (h : skipStringRest c = .ok c') :
    c'.rest.length < c.rest.length := by
  fun_induction skipStringRest c generalizing c' <;> grind [failAt]

/-! ### Constants and numbers -/

/-- Reads the letters of a constant. -/
def readIdent (c : Cursor) : List Char → Except Fault Cursor
  | [] => .ok c
  | x :: xs =>
    match c.rest with
    | [] => failAt .eofInValue c
    | y :: rest =>
      if y = x then readIdent ⟨c.index + 1, rest⟩ xs
      else .error (.placed .expectedIdent (c.index + 1))

@[grind →]
theorem length_readIdent {c c' : Cursor} {letters : List Char} (h : readIdent c letters = .ok c') :
    c'.rest.length ≤ c.rest.length := by
  fun_induction readIdent c letters <;> grind [failAt]

/-- Splits off the digits that come next. -/
def takeDigits (c : Cursor) : List Nat × Cursor :=
  let digits := c.rest.takeWhile Char.isDigit
  (digits.map fun d => d.toNat - '0'.toNat, c.skip digits.length)

theorem length_takeDigits_le (c : Cursor) : (takeDigits c).2.rest.length ≤ c.rest.length :=
  c.length_skip_le _

theorem length_takeDigits_lt {c : Cursor} {x : Char} {cs : List Char} (h : c.rest = x :: cs)
    (hx : x.isDigit = true) : (takeDigits c).2.rest.length < c.rest.length := by
  simp only [takeDigits, Cursor.skip, h, List.takeWhile_cons_of_pos hx, List.length_cons,
    List.drop_succ_cons, List.length_drop]
  omega

/-- Whether a digit comes next. -/
def digitNext (c : Cursor) : Bool := c.rest.head?.any Char.isDigit

/-- Whether the letter of an exponent comes next. -/
def exponentNext (c : Cursor) : Bool := c.rest.head?.any fun x => x == 'e' || x == 'E'

/-- Whether a point comes next. -/
def pointNext (c : Cursor) : Bool := c.rest.head? == some '.'

/-- Adds digits to a number as long as it stays below a bound. Yields the digits that were left
over. -/
def addDigits (bound n : Nat) : List Nat → Nat × List Nat
  | [] => (n, [])
  | d :: ds => if n * 10 + d < bound then addDigits bound (n * 10 + d) ds else (n, d :: ds)

/-- A number that has been read. -/
inductive Number where
  | integer (n : Int)
  | float (x : Float)

/-- The floating-point number `significand · 10 ^ exponent`, by multiplications and divisions of
floating-point numbers; `none` if it is too large. -/
def scaleFloat (x : Float) (exponent : Int) : (steps : Nat) → Option Float
  | 0 => some x
  | steps + 1 =>
    if exponent.natAbs ≤ 308 then
      let power := Float.ofScientific 1 false exponent.natAbs
      if 0 ≤ exponent then
        let y := x * power
        if y.isInf then none else some y
      else some (x / power)
    else if x == 0 then some x
    else if 0 ≤ exponent then none
    else scaleFloat (x / Float.ofScientific 1 false 308) (exponent + 308) steps

/-- The floating-point number of the parts that were read. -/
def floatOf (positive : Bool) (significand : Nat) (exponent : Int) (c : Cursor) :
    Except Fault (Number × Cursor) :=
  match scaleFloat (Float.ofNat significand) exponent 8 with
  | some x => .ok (.float (if positive then x else -x), c)
  | none => failAt .numberOutOfRange c

/-- Reads an exponent, from its letter on. `start` is the exponent that the digits before it give. -/
def readExponent (positive : Bool) (significand : Nat) (start : Int) (c : Cursor) :
    Except Fault (Number × Cursor) :=
  let c := c.bump
  let down := c.rest.head? == some '-'
  let c := if down || c.rest.head? == some '+' then c.bump else c
  match c.rest with
  | [] => failAt .eofInValue c
  | x :: _ =>
    if !x.isDigit then .error (.placed .invalidNumber (c.index + 1))
    else
      let digits := c.rest.takeWhile Char.isDigit
      let (exp, left) := addDigits (1 <<< 31) 0 (digits.map fun d => d.toNat - '0'.toNat)
      if left.isEmpty then
        floatOf positive significand (if down then start - exp else start + exp)
          (c.skip digits.length)
      else if significand ≠ 0 ∧ !down then
        failAt .numberOutOfRange (c.skip (digits.length - left.length + 1))
      else .ok (.float (if positive then 0.0 else -0.0), c.skip digits.length)

/-- Reads the digits after a point, from the point on. `start` counts the digits before it that were
left out. -/
def readFraction (positive : Bool) (significand : Nat) (start : Int) (c : Cursor) :
    Except Fault (Number × Cursor) :=
  let c := c.bump
  let (digits, after) := takeDigits c
  if digits.isEmpty then
    if c.rest.isEmpty then failNext .eofInValue c else failNext .invalidNumber c
  else
    let (n, left) := addDigits (1 <<< 64) significand digits
    let exponent := start - (digits.length - left.length : Nat)
    if exponentNext after then readExponent positive n exponent after
    else floatOf positive n exponent after

/-- Reads a number, after its sign. -/
def readNumber (positive : Bool) (c : Cursor) : Except Fault (Number × Cursor) :=
  match c.rest with
  | [] => failAt .eofInValue c
  | x :: rest =>
    if !x.isDigit then .error (.placed .invalidNumber (c.index + 1))
    else if x = '0' ∧ rest.head?.any Char.isDigit then
      failNext .invalidNumber c.bump
    else
      let (digits, after) := takeDigits c
      let (n, left) := addDigits (1 <<< 64) 0 digits
      let large := !left.isEmpty
      if pointNext after then readFraction positive n left.length after
      else if exponentNext after then readExponent positive n left.length after
      else if large then floatOf positive n left.length after
      else if positive then .ok (.integer n, after)
      else if n = 0 ∨ 1 <<< 63 < n then .ok (.float (-(Float.ofNat n)), after)
      else .ok (.integer (-(n : Int)), after)

/-- Steps over a sign, if one comes next. -/
def skipSign (c : Cursor) : Cursor :=
  if c.rest.head?.any fun x => x == '+' || x == '-' then c.bump else c

theorem length_skipSign_le (c : Cursor) : (skipSign c).rest.length ≤ c.rest.length := by
  have := c.length_bump_le
  grind [skipSign]

/-- Steps over an exponent, from its letter on. -/
def skipExponent (c : Cursor) : Except Fault Cursor :=
  let c := skipSign c.bump
  match c.rest with
  | [] => failAt .invalidNumber c
  | x :: _ =>
    if x.isDigit then .ok (takeDigits c).2 else .error (.placed .invalidNumber (c.index + 1))

@[grind →]
theorem length_skipExponent {c c' : Cursor} (h : skipExponent c = .ok c') :
    c'.rest.length ≤ c.rest.length := by
  have := c.length_bump_le
  have := length_skipSign_le c.bump
  have := length_takeDigits_le (skipSign c.bump)
  grind [skipExponent, failAt]

/-- Steps over the digits after a point and over an exponent, from the point on. -/
def skipFraction (c : Cursor) : Except Fault Cursor :=
  let c := c.bump
  if !digitNext c then failNext .invalidNumber c
  else
    let after := (takeDigits c).2
    if exponentNext after then skipExponent after else .ok after

@[grind →]
theorem length_skipFraction {c c' : Cursor} (h : skipFraction c = .ok c') :
    c'.rest.length ≤ c.rest.length := by
  have := c.length_bump_le
  have := length_takeDigits_le c.bump
  grind [skipFraction, failNext]

/-- Steps over a number, after its sign. -/
def skipNumber (c : Cursor) : Except Fault Cursor :=
  match c.rest with
  | [] => failAt .invalidNumber c
  | x :: rest =>
    if !x.isDigit then .error (.placed .invalidNumber (c.index + 1))
    else if x = '0' ∧ rest.head?.any Char.isDigit then failNext .invalidNumber c.bump
    else
      let after := (takeDigits c).2
      if pointNext after then skipFraction after
      else if exponentNext after then skipExponent after
      else .ok after

@[grind →]
theorem length_skipNumber {c c' : Cursor} (h : skipNumber c = .ok c') :
    c'.rest.length < c.rest.length := by
  grind [skipNumber, length_takeDigits_lt, failAt, failNext]

end Fieldwise.Json
