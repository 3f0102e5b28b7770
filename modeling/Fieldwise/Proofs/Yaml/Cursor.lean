import Fieldwise.Yaml.Scalar.Write
import Fieldwise.Yaml.Token.Scan
import Mathlib.Data.List.Basic
import Mathlib.Data.List.TakeWhile

/-!
# Moving through a YAML text

All that reads a text moves its cursor over characters one after another. `Cursor.past` is the place behind
some characters, so that what a reader does can be said without a word about lines and columns: it goes
over just the characters that were written. Here are the places behind lines and indentation, and the
readers of what stands between words.
-/

namespace Fieldwise.Yaml

/-! ### Texts in pieces -/

/-- A text consists of pieces without characters of a class and, between them, gaps of such characters. What
holds of the last piece, and with what follows a gap also of that with a piece and the gap before it, holds
of every text. -/
theorem pieces_induction {α : Type} {p : α → Bool} {P : List α → Prop}
    (last : ∀ piece, (∀ x ∈ piece, p x = false) → P piece)
    (more : ∀ piece gap rest, (∀ x ∈ piece, p x = false) → gap ≠ [] → (∀ x ∈ gap, p x = true) →
      (∀ x ∈ rest.head?, p x = false) → P rest → P (piece ++ (gap ++ rest))) (text : List α) : P text := by
  induction hlength : text.length using Nat.strongRecOn generalizing text with
  | ind n ih =>
    -- a piece up to the first character of the class, a gap up to the next one that is not, and a shorter rest
    have hpiece : ∀ x ∈ text.takeWhile (fun x => !p x), p x = false := fun x hx => by
      simpa using List.mem_takeWhile_imp hx
    have hsplit := List.takeWhile_append_dropWhile (p := fun x => !p x) (l := text)
    cases hrest : text.dropWhile (fun x => !p x) with
    | nil =>
      rw [hrest, List.append_nil] at hsplit
      exact last text (hsplit ▸ hpiece)
    | cons y ys =>
      have hy : p y = true := by
        have h := List.head?_dropWhile_not (fun x => !p x) text
        simpa [hrest] using h
      have hgap := List.takeWhile_append_dropWhile (p := p) (l := y :: ys)
      rw [hrest, ← hgap] at hsplit
      rw [← hsplit]
      refine more _ _ _ hpiece (by simp [hy]) (fun x hx => List.mem_takeWhile_imp hx) (fun x hx => ?_)
        (ih _ ?_ _ rfl)
      · have h := List.head?_dropWhile_not p (y :: ys)
        rw [Option.mem_def.mp hx] at h
        exact h
      · -- the gap is not empty, so less is left
        have hle := List.length_dropWhile_le p ys
        have htotal := congrArg List.length (List.takeWhile_append_dropWhile (p := fun x => !p x) (l := text))
        rw [hrest, List.length_append, List.length_cons, hlength] at htotal
        rw [List.dropWhile_cons_of_pos hy]
        omega

/-! ### The place behind some characters -/

namespace Cursor

/-- The place behind a character. -/
def pass (c : Cursor) (x : Char) : Cursor := if isBreak x then c.skipLine else c.skip 1

/-- The place behind some characters. -/
def past (c : Cursor) (text : List Char) : Cursor := text.foldl pass c

variable {c : Cursor} {text text' rest : List Char} {x : Char} {n : Nat}

@[simp] theorem past_nil (c : Cursor) : c.past [] = c := rfl

theorem past_cons (c : Cursor) (x : Char) (text : List Char) : c.past (x :: text) = (c.pass x).past text := rfl

theorem past_append (c : Cursor) (text text' : List Char) : c.past (text ++ text') = (c.past text).past text' :=
  List.foldl_append

theorem pass_of_break (hx : isBreak x = true) : c.pass x = c.skipLine := if_pos hx

theorem pass_of_not_break (hx : isBreak x = false) : c.pass x = c.skip 1 := if_neg (by simp [hx])

theorem skipLine_eq (h : c.rest = x :: rest) (hx : x ≠ '\r') :
    c.skipLine = ⟨rest, c.index + 1, c.line + 1, 0⟩ := by
  -- only a return could take the character behind it along
  unfold skipLine
  split
  · rename_i h'
    rw [h] at h'
    exact absurd (List.cons.inj h').1 hx
  · rename_i h'
    rw [h] at h'
    rw [(List.cons.inj h').2]
  · rename_i h'
    rw [h] at h'
    cases h'

theorem rest_pass (h : c.rest = x :: rest) (hx : x ≠ '\r') : (c.pass x).rest = rest := by
  unfold pass
  split
  · rw [skipLine_eq h hx]
  · rw [skip, h]
    rfl

/-- Behind some characters there is what follows them. -/
theorem rest_past (h : c.rest = text ++ rest) (hreturn : ∀ x ∈ text, x ≠ '\r') : (c.past text).rest = rest := by
  induction text generalizing c with
  | nil => exact h
  | cons x text ih =>
    obtain ⟨hx, htext⟩ := List.forall_mem_cons.mp hreturn
    exact ih (rest_pass h hx) htext

theorem skip_skip (c : Cursor) (m n : Nat) : (c.skip m).skip n = c.skip (m + n) := by
  simp only [skip, List.drop_drop, Nat.add_assoc]

/-- On a line it is enough to count. -/
theorem past_eq_skip (h : ∀ x ∈ text, isBreak x = false) : c.past text = c.skip text.length := by
  induction text generalizing c with
  | nil => simp [skip]
  | cons x text ih =>
    obtain ⟨hx, htext⟩ := List.forall_mem_cons.mp h
    rw [past_cons, pass_of_not_break hx, ih htext, skip_skip, List.length_cons, Nat.add_comm]

theorem column_past (h : ∀ x ∈ text, isBreak x = false) : (c.past text).column = c.column + text.length := by
  rw [past_eq_skip h]
  rfl

/-- Behind a break a line begins. -/
theorem column_past_of_getLast? (h : c.rest = text ++ rest) (hreturn : ∀ x ∈ text, x ≠ '\r')
    (hlast : ∃ x ∈ text.getLast?, isBreak x = true) : (c.past text).column = 0 := by
  obtain ⟨x, hx, hbreak⟩ := hlast
  obtain ⟨init, rfl⟩ := List.getLast?_eq_some_iff.mp hx
  obtain ⟨hinit, hx⟩ := List.forall_mem_append.mp hreturn
  rw [List.append_assoc] at h
  rw [past_append, past_cons, pass_of_break hbreak, past_nil,
    skipLine_eq (rest_past h hinit) (hx x List.mem_cons_self)]

theorem column_past_breaks (h : c.rest = text ++ rest) (hne : text ≠ []) (htext : ∀ x ∈ text, isBreak x = true)
    (hreturn : ∀ x ∈ text, x ≠ '\r') : (c.past text).column = 0 :=
  column_past_of_getLast? h hreturn
    ⟨text.getLast hne, List.getLast?_eq_some_getLast hne, htext _ (List.getLast_mem hne)⟩

theorem line_le_skipLine (c : Cursor) : c.line ≤ c.skipLine.line := by
  unfold skipLine
  split
  · exact Nat.le_succ _
  · exact Nat.le_succ _
  · exact Nat.le_refl _

theorem line_le_past (c : Cursor) (text : List Char) : c.line ≤ (c.past text).line := by
  induction text generalizing c with
  | nil => exact Nat.le_refl _
  | cons x text ih =>
    refine Nat.le_trans ?_ (ih (c.pass x))
    unfold pass
    split
    · exact line_le_skipLine c
    · exact Nat.le_refl _

/-- A newline leads to a line further on. -/
theorem line_lt_past (h : c.rest = text ++ '\n' :: rest) (hreturn : ∀ x ∈ text, x ≠ '\r') (text' : List Char) :
    c.line < (c.past (text ++ '\n' :: text')).line := by
  have hline : (c.past text).skipLine.line = (c.past text).line + 1 := by
    rw [skipLine_eq (rest_past h hreturn) (by decide)]
  rw [past_append, past_cons, pass_of_break rfl]
  have h₁ := line_le_past c text
  have h₂ := line_le_past (c.past text).skipLine text'
  omega

end Cursor

/-! ### Indentation -/

theorem mem_spaces {x : Char} {n : Nat} (h : x ∈ spaces n) : x = ' ' := List.eq_of_mem_replicate h

theorem isBreak_of_mem_spaces {n : Nat} : ∀ x ∈ spaces n, isBreak x = false := by
  intro x hx
  rw [mem_spaces hx]
  rfl

theorem spaces_succ (n : Nat) : spaces (n + 1) = ' ' :: spaces n := rfl

@[simp] theorem length_spaces (n : Nat) : (spaces n).length = n := List.length_replicate

namespace Cursor

variable {c : Cursor} {rest : List Char} {n : Nat}

theorem past_spaces (c : Cursor) (n : Nat) : c.past (spaces n) = c.skip n := by
  rw [past_eq_skip isBreak_of_mem_spaces, length_spaces]

theorem rest_past_spaces (h : c.rest = spaces n ++ rest) : (c.past (spaces n)).rest = rest :=
  rest_past h fun x hx => by
    rw [mem_spaces hx]
    decide

/-- The place behind the end of a line and the indentation of the next one. -/
theorem past_newline (h : c.rest = '\n' :: (spaces n ++ rest)) :
    c.past ('\n' :: spaces n) = ⟨rest, c.index + 1 + n, c.line + 1, n⟩ := by
  rw [past_cons, pass_of_break rfl, skipLine_eq h (by decide), past_spaces, skip, List.drop_left' (length_spaces n),
    Nat.zero_add]

end Cursor

/-! ### Between words -/

theorem isBlank_of_isBreak {x : Char} (h : isBreak x = true) : isBlank x = false := by
  simp only [isBreak, Bool.or_eq_true, beq_iff_eq] at h
  rcases h with (((rfl | rfl) | rfl) | rfl) | rfl <;> rfl

/-- What comes next is no spacing. -/
def StartsWord (rest : List Char) : Prop := ∀ x ∈ rest.head?, isSpacing x = false

theorem startsWord_cons {x : Char} {rest : List Char} : StartsWord (x :: rest) ↔ isSpacing x = false := by
  simp [StartsWord]

theorem isBlank_of_startsWord {x : Char} {rest : List Char} (h : StartsWord (x :: rest)) : isBlank x = false :=
  (Bool.or_eq_false_iff.mp (h x rfl)).1

theorem isBreak_of_startsWord {x : Char} {rest : List Char} (h : StartsWord (x :: rest)) : isBreak x = false :=
  (Bool.or_eq_false_iff.mp (h x rfl)).2

theorem isBreak_of_not_spacing {x : Char} (h : isSpacing x = false) : isBreak x = false :=
  (Bool.or_eq_false_iff.mp h).2

/-- What is printed is no spacing but a space or a break. -/
theorem eq_space_of_isPrintable {x : Char} (h : isPrintable x = true) (hbreak : isBreak x = false)
    (hspacing : isSpacing x = true) : x = ' ' := by
  simp only [isSpacing, isBlank, hbreak, Bool.or_false, Bool.or_eq_true, beq_iff_eq] at hspacing
  rcases hspacing with rfl | rfl
  · rfl
  · simp [isPrintable] at h

theorem ne_return_of_not_break {x : Char} (h : isBreak x = false) : x ≠ '\r' := by
  rintro rfl
  cases h

theorem StartsWord.append {text : List Char} (h : StartsWord text) (hne : text ≠ []) (rest : List Char) :
    StartsWord (text ++ rest) := by
  rwa [StartsWord, List.head?_append_of_ne_nil _ hne]

theorem eq_spaces {blanks : List Char} (h : ∀ x ∈ blanks, x = ' ') : blanks = spaces blanks.length :=
  List.eq_replicate_of_mem h

section Gaps

variable {c : Cursor} {rest breaks : List Char} {n indent : Nat}

theorem readBreaks_of_startsWord (h : c.rest = rest) (hrest : StartsWord rest) :
    readBreaks indent c = some ([], c) := by
  rw [readBreaks]
  split
  · rfl
  · rename_i x xs hx
    have hword : StartsWord (x :: xs) := hx ▸ h ▸ hrest
    rw [if_neg (by simp [isBlank_of_startsWord hword]), if_neg (by simp [isBreak_of_startsWord hword])]

/-- Indentation is stepped over. -/
theorem readBreaks_spaces (h : c.rest = spaces n ++ rest) (hrest : StartsWord rest) :
    readBreaks indent c = some ([], c.past (spaces n)) := by
  induction n generalizing c with
  | zero => exact readBreaks_of_startsWord h hrest
  | succ n ih =>
    rw [readBreaks]
    split
    · rename_i hnil
      rw [hnil] at h
      cases h
    · rename_i x xs hx
      obtain ⟨rfl, rfl⟩ := List.cons.inj (hx.symm.trans h)
      rw [if_pos (by decide), if_neg (by simp), spaces_succ, Cursor.past_cons, Cursor.pass_of_not_break rfl]
      exact ih (by rw [Cursor.skip, hx]; rfl)

/-- Breaks are read, and the indentation after them is stepped over. -/
theorem readBreaks_breaks (h : c.rest = breaks ++ (spaces n ++ rest)) (hrest : StartsWord rest)
    (hbreaks : ∀ x ∈ breaks, isBreak x = true) (hreturn : ∀ x ∈ breaks, x ≠ '\r') :
    readBreaks indent c = some (breaks.map breakValue, c.past (breaks ++ spaces n)) := by
  induction breaks generalizing c with
  | nil => exact readBreaks_spaces h hrest
  | cons b breaks ih =>
    obtain ⟨hb, htail⟩ := List.forall_mem_cons.mp hbreaks
    obtain ⟨hr, hreturn'⟩ := List.forall_mem_cons.mp hreturn
    rw [readBreaks]
    split
    · rename_i hnil
      rw [hnil] at h
      cases h
    · rename_i x xs hx
      obtain ⟨rfl, rfl⟩ := List.cons.inj (hx.symm.trans h)
      have hafter : c.skipLine.rest = breaks ++ (spaces n ++ rest) := by
        rw [Cursor.skipLine_eq hx hr]
        rfl
      rw [if_neg (by simp [isBlank_of_isBreak hb]), if_pos hb, ih hafter htail hreturn', List.cons_append,
        Cursor.past_cons, Cursor.pass_of_break hb]
      rfl

theorem atBreak_eq (h : c.rest = rest) : c.atBreak = rest.head?.any isBreak := by rw [Cursor.atBreak, h]

theorem atBreak_of_startsWord (h : c.rest = rest) (hrest : StartsWord rest) : c.atBreak = false := by
  rw [atBreak_eq h]
  cases rest with
  | nil => rfl
  | cons x xs => exact isBreak_of_startsWord hrest

/-- What is blank before a word, or before a break. -/
theorem takeWhile_isBlank (n : Nat) {rest : List Char} (hrest : ∀ x ∈ rest.head?, isBlank x = false) :
    (spaces n ++ rest).takeWhile isBlank = spaces n := by
  rw [List.takeWhile_append_of_pos fun x hx => by rw [mem_spaces hx]; rfl]
  cases rest with
  | nil => simp
  | cons x xs => simp [hrest x rfl]

/-- Blanks before a word stay as they are. -/
theorem readGap_spaces (indent : Nat) (h : c.rest = spaces n ++ rest) (hrest : StartsWord rest) :
    readGap indent c = some (⟨spaces n, false⟩, c.past (spaces n)) := by
  have hblanks : c.rest.takeWhile isBlank = spaces n := by
    rw [h]
    refine takeWhile_isBlank n fun x hx => ?_
    exact (Bool.or_eq_false_iff.mp (hrest x hx)).1
  have hafter : (c.past (spaces n)).rest = rest := Cursor.rest_past_spaces h
  rw [readGap, hblanks, length_spaces, ← Cursor.past_spaces, atBreak_of_startsWord hafter hrest]
  rfl

/-- Breaks before an indented word are folded. -/
theorem readGap_breaks (indent : Nat) (h : c.rest = breaks ++ (spaces n ++ rest)) (hrest : StartsWord rest)
    (hne : breaks ≠ []) (hbreaks : ∀ x ∈ breaks, isBreak x = true) (hreturn : ∀ x ∈ breaks, x ≠ '\r') :
    readGap indent c = some (⟨foldBreaks (breaks.map breakValue), true⟩, c.past (breaks ++ spaces n)) := by
  obtain ⟨b, bs, rfl⟩ := List.exists_cons_of_ne_nil hne
  have hb : isBreak b = true := hbreaks b List.mem_cons_self
  have hblanks : c.rest.takeWhile isBlank = [] := by
    rw [h, List.cons_append, List.takeWhile_cons_of_neg (by simp [isBlank_of_isBreak hb])]
  have hskip : c.skip 0 = c := rfl
  rw [readGap, hblanks, List.length_nil, hskip, atBreak_eq h, readBreaks_breaks h hrest hbreaks hreturn,
    List.cons_append, List.head?_cons, Option.any_some, if_pos hb]
  rfl

end Gaps

/-! ### Between tokens -/

/-- What comes next is the first character of a token. -/
def StartsToken (rest : List Char) : Prop :=
  StartsWord rest ∧ ∀ x ∈ rest.head?, x ≠ '#' ∧ x ≠ '\uFEFF'

section Spacing

open Scan

variable {c : Cursor} {rest : List Char} {n : Nat}

theorem isAt_eq_false {x : Char} (h : ∀ y ∈ c.rest.head?, y ≠ x) : c.isAt x = false := by
  rw [Cursor.isAt, Cursor.next?]
  cases hhead : c.rest.head? with
  | none => rfl
  | some y => simpa using h y hhead

theorem skipBlanks_spaces (tabs : Bool) (h : c.rest = spaces n ++ rest) (hrest : ∀ x ∈ rest.head?,
    x ≠ ' ' ∧ x ≠ '\t' ∧ x ≠ '#' ∧ x ≠ '\uFEFF') : skipBlanks tabs c = c.past (spaces n) := by
  -- a byte order mark would be stepped over before the blanks are
  have hmark : c.isAt '\uFEFF' = false := isAt_eq_false fun y hy => by
    rw [h] at hy
    cases n with
    | zero => exact (hrest y hy).2.2.2
    | succ n =>
      cases hy
      decide
  have hblanks : c.rest.takeWhile (fun x => x == ' ' || (tabs && x == '\t')) = spaces n := by
    rw [h, List.takeWhile_append_of_pos fun x hx => by rw [mem_spaces hx]; rfl]
    cases rest with
    | nil => simp
    | cons x xs => simp [hrest x rfl]
  have hafter : (c.past (spaces n)).rest = rest := Cursor.rest_past_spaces h
  have hcomment : (c.past (spaces n)).isAt '#' = false := isAt_eq_false fun y hy => by
    rw [hafter] at hy
    exact (hrest y hy).2.2.1
  rw [skipBlanks]
  simp only [hmark, Bool.false_eq_true, and_false, if_false, Cursor.skipWhile, hblanks, length_spaces]
  rw [← Cursor.past_spaces, hcomment]
  rfl

theorem StartsToken.not_blank (h : StartsToken rest) :
    ∀ x ∈ rest.head?, x ≠ ' ' ∧ x ≠ '\t' ∧ x ≠ '#' ∧ x ≠ '\uFEFF' := by
  intro x hx
  have hspacing := h.1 x hx
  refine ⟨?_, ?_, h.2 x hx⟩
  · rintro rfl
    simp [isSpacing, isBlank] at hspacing
  · rintro rfl
    simp [isSpacing, isBlank] at hspacing

/-- Blanks before a token are stepped over. -/
theorem skipSpacing_spaces (flow keyAllowed : Bool) (h : c.rest = spaces n ++ rest) (hrest : StartsToken rest) :
    skipSpacing flow keyAllowed c = (c.past (spaces n), keyAllowed) := by
  have hafter : (c.past (spaces n)).rest = rest := Cursor.rest_past_spaces h
  rw [skipSpacing, skipBlanks_spaces _ h hrest.not_blank]
  simp only [atBreak_of_startsWord hafter hrest.1, Bool.false_eq_true, dite_false]

/-- So are the end of a line and the indentation of the next one, and then a key may begin. -/
theorem skipSpacing_newline (keyAllowed : Bool) (h : c.rest = '\n' :: (spaces n ++ rest))
    (hrest : StartsToken rest) :
    skipSpacing false keyAllowed c = (c.past ('\n' :: spaces n), true) := by
  have hblanks : skipBlanks (false || !keyAllowed) c = c :=
    skipBlanks_spaces (n := 0) _ h (by simp)
  have hafter : c.skipLine.rest = spaces n ++ rest := by rw [Cursor.skipLine_eq h (by decide)]
  rw [skipSpacing, hblanks]
  simp only [atBreak_eq h, List.head?_cons, Option.any_some, show isBreak '\n' = true from rfl, dite_true]
  rw [skipSpacing_spaces _ _ hafter hrest, Cursor.past_cons, Cursor.pass_of_break rfl]
  simp

end Spacing

end Fieldwise.Yaml
