import Fieldwise.Text.Hex
import Fieldwise.Yaml.Scalar.Gap

/-!
# Quoted scalars

Between single quotes a quote is written twice. Between double quotes a backslash escapes: it names a
character that could not stand there, or takes a line break out.
-/

namespace Fieldwise.Yaml

/-- The two kinds of quotes. -/
inductive Quote where
  | single
  | double
  deriving BEq, DecidableEq, Repr

/-- The quote as a character. -/
def Quote.char : Quote → Char
  | .single => '\''
  | .double => '"'

/-- The character that a one-letter escape stands for. -/
def escapedChar? : Char → Option Char
  | '0' => some '\x00'
  | 'a' => some '\x07'
  | 'b' => some '\x08'
  | 't' => some '\t'
  | '\t' => some '\t'
  | 'n' => some '\n'
  | 'v' => some '\x0b'
  | 'f' => some '\x0c'
  | 'r' => some '\x0d'
  | 'e' => some '\x1b'
  | ' ' => some ' '
  | '"' => some '"'
  | '/' => some '/'
  | '\\' => some '\\'
  | 'N' => some '\u0085'
  | '_' => some '\u00a0'
  | 'L' => some '\u2028'
  | 'P' => some '\u2029'
  | _ => none

/-- The number of digits after the letter of an escape that gives a character's number. -/
def escapeWidth? : Char → Option Nat
  | 'x' => some 2
  | 'u' => some 4
  | 'U' => some 8
  | _ => none

/-- The number that digits in hexadecimal give. -/
def hexNumber? (digits : List Char) : Option Nat :=
  digits.foldlM (fun n d => (Hex.digitValue? d).map (n * 16 + ·)) 0

/-- The character of a number, if there is one. -/
def charOfNumber? (n : Nat) : Option Char := if h : n.isValidChar then some (Char.ofNatAux n h) else none

/-- The character of an escape, from the letter after the backslash on, and the number of characters
that the escape has after the backslash. -/
def unescape? (letter : Char) (rest : List Char) : Option (Char × Nat) :=
  match escapedChar? letter with
  | some c => some (c, 1)
  | none => do
    let width ← escapeWidth? letter
    let digits := rest.take width
    if digits.length < width then none
    else
      let c ← charOfNumber? (← hexNumber? digits)
      some (c, width + 1)

/-- How a word of a quoted scalar ends: before spacing or the closing quote, or with an escaped line
break. -/
inductive WordEnd where
  | plain
  | escapedBreak
  deriving BEq, DecidableEq

/-- Reads a word of a quoted scalar. -/
def readWord (quote : Quote) (c : Cursor) : Option (List Char × WordEnd × Cursor) :=
  match _h : c.rest with
  | [] => some ([], .plain, c)
  | x :: rest =>
    if isSpacing x then some ([], .plain, c)
    else if x = quote.char then
      if quote = .single ∧ rest.head? = some '\'' then
        (readWord quote (c.skip 2)).map fun (text, r) => ('\'' :: text, r)
      else some ([], .plain, c)
    else if quote = .double ∧ x = '\\' then
      if rest.head?.any isBreak then some ([], .escapedBreak, (c.skip 1).skipLine)
      else
        match rest with
        | [] => none
        | letter :: rest =>
          match unescape? letter rest with
          | none => none
          | some (y, n) => (readWord quote (c.skip (1 + n))).map fun (text, r) => (y :: text, r)
    else (readWord quote (c.skip 1)).map fun (text, r) => (x :: text, r)
  termination_by c.rest.length
  decreasing_by
  all_goals exact length_skip_lt (by simp [_h]) (by omega)

theorem length_readWord_le {quote : Quote} {c c' : Cursor} {text : List Char} {e : WordEnd}
    (h : readWord quote c = some (text, e, c')) : c'.rest.length ≤ c.rest.length := by
  fun_induction readWord quote c generalizing text e <;>
    grind [Option.map_eq_some_iff, length_skip_le, length_skipLine_le]

/-- A word that ends plainly ends before spacing, the closing quote or the end of the text. -/
theorem readWord_stop {quote : Quote} {c c' : Cursor} {text : List Char}
    (h : readWord quote c = some (text, .plain, c')) :
    c'.rest = [] ∨ c'.rest.head?.any isSpacing = true ∨ c'.isAt quote.char = true := by
  fun_induction readWord quote c generalizing text <;>
    grind [Option.map_eq_some_iff, Cursor.isAt, Cursor.next?]

/-- A word that ends with an escaped break has the break's escape at the least. -/
theorem length_readWord_lt {quote : Quote} {c c' : Cursor} {text : List Char}
    (h : readWord quote c = some (text, .escapedBreak, c')) : c'.rest.length < c.rest.length := by
  fun_induction readWord quote c generalizing text with
  | case5 c _ _ hr =>
    have := length_skip_lt (c := c) (n := 1) (by simp [hr]) Nat.one_pos
    have := length_skipLine_le (c.skip 1)
    grind
  | _ => grind [Option.map_eq_some_iff, length_skip_le]

/-- Reads the spacing after a word of a quoted scalar. After an escaped break no other break is
dropped. -/
def readQuotedGap (e : WordEnd) (c : Cursor) : Option (List Char × Cursor) :=
  match e with
  | .plain => (readGap 0 c).map fun (gap, after) => (gap.text, after)
  | .escapedBreak => readBreaks 0 c

theorem length_readQuotedGap_le {e : WordEnd} {c c' : Cursor} {text : List Char}
    (h : readQuotedGap e c = some (text, c')) : c'.rest.length ≤ c.rest.length := by
  cases e with
  | plain =>
    simp only [readQuotedGap, Option.map_eq_some_iff, Prod.mk.injEq, Prod.exists] at h
    obtain ⟨g, a, hg, -, rfl⟩ := h
    exact length_readGap_le hg
  | escapedBreak => exact length_readBreaks_le h

/-- A word that does not end at the closing quote and the spacing after it are not empty. -/
theorem length_readQuotedGap_lt {quote : Quote} {c after next : Cursor} {word gap : List Char}
    {e : WordEnd} (hc : c.rest ≠ []) (hw : readWord quote c = some (word, e, after))
    (hq : after.isAt quote.char = false) (hg : readQuotedGap e after = some (gap, next)) :
    next.rest.length < c.rest.length := by
  have hle := length_readQuotedGap_le hg
  cases e with
  | escapedBreak => exact Nat.lt_of_le_of_lt hle (length_readWord_lt hw)
  | plain =>
    have hpos := List.length_pos_iff.2 hc
    rcases readWord_stop hw with h | h | h
    · simp only [h, List.length_nil] at hle
      omega
    · simp only [readQuotedGap, Option.map_eq_some_iff, Prod.mk.injEq, Prod.exists] at hg
      obtain ⟨g, a, hg, -, rfl⟩ := hg
      exact Nat.lt_of_lt_of_le (length_readGap_lt h hg) (length_readWord_le hw)
    · simp [hq] at h

/-- Reads the rest of a quoted scalar, up to and with the closing quote. -/
def readQuoted (quote : Quote) (c : Cursor) : Option (List Char × Cursor) :=
  if _hc : (c.column = 0 ∧ atDelimiter c.rest) ∨ c.rest = [] then none
  else
    match _hw : readWord quote c with
    | none => none
    | some (word, e, after) =>
      if _hq : after.isAt quote.char then some (word, after.skip 1)
      else
        match _hg : readQuotedGap e after with
        | none => none
        | some (gap, next) => (readQuoted quote next).map fun (text, c) => (word ++ gap ++ text, c)
  termination_by c.rest.length
  decreasing_by
    exact length_readQuotedGap_lt (fun h => _hc (.inr h)) _hw (Bool.not_eq_true _ ▸ _hq) _hg

end Fieldwise.Yaml
