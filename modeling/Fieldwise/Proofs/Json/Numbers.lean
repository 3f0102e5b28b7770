import Fieldwise.Proofs.Json.Grammar
import Mathlib.Data.List.Basic

/-!
# JSON numbers stepped over

The reader steps over any number that the grammar has, up to its last digit (`skipNumber_of_parts`), if what
follows does not go on with a number (`Delimited`). A part of a number ends where the next one begins: digits
at anything that is none, a fraction at the letter of an exponent.
-/

namespace Fieldwise.Json

/-- What follows does not go on with a number. -/
def Delimited (rest : List Char) : Prop :=
  ∀ x ∈ rest.head?, x.isDigit = false ∧ x ≠ '.' ∧ x ≠ 'e' ∧ x ≠ 'E'

/-- What follows does not go on with digits. -/
def EndsDigits (rest : List Char) : Prop := ∀ x ∈ rest.head?, x.isDigit = false

/-- Digits are stepped over, up to the last. -/
theorem skip_digits {digits rest : List Char} (hdigits : ∀ c ∈ digits, c.isDigit = true)
    (hrest : EndsDigits rest) (index : Nat) :
    (takeDigits ⟨index, digits ++ rest⟩).2 = ⟨index + digits.length, rest⟩ := by
  have htake : (digits ++ rest).takeWhile Char.isDigit = digits := by
    rw [List.takeWhile_append_of_pos hdigits]
    cases rest with
    | nil => simp
    | cons x rest => simp [hrest x rfl]
  simp only [takeDigits, htake, Cursor.skip, List.drop_left]

/-- An exponent is stepped over, whatever its letter is. -/
theorem skipExponent_of_digits {sign digits rest : List Char}
    (hsign : sign = [] ∨ sign = ['+'] ∨ sign = ['-']) (hdigits : IsDigits digits)
    (hrest : EndsDigits rest) (letter : Char) (index : Nat) :
    ∃ index', skipExponent ⟨index, letter :: (sign ++ (digits ++ rest))⟩ = .ok ⟨index', rest⟩ := by
  obtain ⟨hne, hall⟩ := hdigits
  obtain ⟨d, ds, rfl⟩ := List.exists_cons_of_ne_nil hne
  have hd : d.isDigit = true := hall d List.mem_cons_self
  have hsignless : d ≠ '+' ∧ d ≠ '-' := by
    constructor <;> (rintro rfl; exact absurd hd (by decide))
  have hskip : ∃ index', skipSign (Cursor.bump ⟨index, letter :: (sign ++ (d :: ds ++ rest))⟩) =
      ⟨index', d :: ds ++ rest⟩ := by
    rcases hsign with rfl | rfl | rfl
    · refine ⟨index + Utf8.width letter, ?_⟩
      simp [skipSign, Cursor.bump, hsignless]
    · refine ⟨index + Utf8.width letter + Utf8.width '+', ?_⟩
      simp [skipSign, Cursor.bump]
    · refine ⟨index + Utf8.width letter + Utf8.width '-', ?_⟩
      simp [skipSign, Cursor.bump]
  obtain ⟨index', hskip⟩ := hskip
  refine ⟨index' + (d :: ds).length, ?_⟩
  rw [skipExponent, hskip]
  simp only [List.cons_append, if_pos hd]
  rw [← List.cons_append, skip_digits hall hrest]

/-- Where an exponent can stand, what follows the digits goes on with no more of them. -/
theorem endsDigits_exponent {exponent rest : List Char} (hexponent : IsExponent exponent)
    (hrest : Delimited rest) : EndsDigits (exponent ++ rest) := by
  cases hexponent with
  | none => exact fun x hx => (hrest x hx).1
  | digits hletter _ _ =>
    rintro x ⟨⟩
    rcases hletter with rfl | rfl <;> rfl

/-- An exponent is stepped over if there is one. -/
theorem skipExponent?_of_isExponent {exponent rest : List Char} (hexponent : IsExponent exponent)
    (hrest : Delimited rest) (index : Nat) :
    ∃ index', (if exponentNext ⟨index, exponent ++ rest⟩ then skipExponent ⟨index, exponent ++ rest⟩
      else .ok ⟨index, exponent ++ rest⟩) = .ok ⟨index', rest⟩ := by
  cases hexponent with
  | none =>
    have hnext : exponentNext ⟨index, [] ++ rest⟩ = false := by
      rw [exponentNext, List.nil_append]
      cases rest with
      | nil => rfl
      | cons x rest =>
        obtain ⟨-, -, he, hE⟩ := hrest x rfl
        simp [he, hE]
    rw [hnext]
    exact ⟨index, rfl⟩
  | @digits letter sign digits hletter hsign hdigits =>
    have hnext : exponentNext ⟨index, letter :: sign ++ digits ++ rest⟩ = true := by
      rcases hletter with rfl | rfl <;> rfl
    rw [hnext, if_pos rfl, List.cons_append, List.cons_append, List.append_assoc]
    exact skipExponent_of_digits hsign hdigits (fun x hx => (hrest x hx).1) letter index

/-- A fraction and an exponent are stepped over, each if there is one. -/
theorem skipFraction?_of_isFraction {fraction exponent rest : List Char} (hfraction : IsFraction fraction)
    (hexponent : IsExponent exponent) (hrest : Delimited rest) (index : Nat) :
    ∃ index', (if pointNext ⟨index, fraction ++ (exponent ++ rest)⟩ then
        skipFraction ⟨index, fraction ++ (exponent ++ rest)⟩
      else if exponentNext ⟨index, fraction ++ (exponent ++ rest)⟩ then
        skipExponent ⟨index, fraction ++ (exponent ++ rest)⟩
      else .ok ⟨index, fraction ++ (exponent ++ rest)⟩) = .ok ⟨index', rest⟩ := by
  cases hfraction with
  | none =>
    have hnext : pointNext ⟨index, [] ++ (exponent ++ rest)⟩ = false := by
      rw [pointNext, List.nil_append]
      cases hexponent with
      | none =>
        cases rest with
        | nil => rfl
        | cons x rest => simp [(hrest x rfl).2.1]
      | digits hletter _ _ => rcases hletter with rfl | rfl <;> rfl
    rw [hnext]
    exact skipExponent?_of_isExponent hexponent hrest index
  | @digits digits hdigits =>
    obtain ⟨hne, hall⟩ := hdigits
    have hbump : Cursor.bump ⟨index, '.' :: digits ++ (exponent ++ rest)⟩ =
        ⟨index + 1, digits ++ (exponent ++ rest)⟩ := rfl
    have hnext : digitNext ⟨index + 1, digits ++ (exponent ++ rest)⟩ = true := by
      obtain ⟨d, ds, rfl⟩ := List.exists_cons_of_ne_nil hne
      exact hall d List.mem_cons_self
    obtain ⟨index', hskip⟩ :=
      skipExponent?_of_isExponent hexponent hrest (index + 1 + digits.length)
    refine ⟨index', ?_⟩
    rw [show pointNext ⟨index, '.' :: digits ++ (exponent ++ rest)⟩ = true from rfl, if_pos rfl, skipFraction]
    simp only [hbump, hnext, Bool.not_true, Bool.false_eq_true, if_false,
      skip_digits hall (endsDigits_exponent hexponent hrest), hskip]

/-- A number is stepped over, after its sign. -/
theorem skipNumber_of_parts {whole fraction exponent rest : List Char} (hwhole : IsWhole whole)
    (hfraction : IsFraction fraction) (hexponent : IsExponent exponent) (hrest : Delimited rest)
    (index : Nat) :
    ∃ index', skipNumber ⟨index, whole ++ (fraction ++ (exponent ++ rest))⟩ = .ok ⟨index', rest⟩ := by
  have hends : EndsDigits (fraction ++ (exponent ++ rest)) := by
    cases hfraction with
    | none =>
      rw [List.nil_append]
      exact endsDigits_exponent hexponent hrest
    | digits _ =>
      rintro x ⟨⟩
      rfl
  have hall : ∀ c ∈ whole, c.isDigit = true := by
    cases hwhole with
    | zero =>
      rintro c hc
      rw [List.mem_singleton.mp hc]
      rfl
    | digits _ h => exact h.2
  obtain ⟨index', hskip⟩ := skipFraction?_of_isFraction hfraction hexponent hrest (index + whole.length)
  refine ⟨index', ?_⟩
  obtain ⟨c, ds, hcons⟩ : ∃ c ds, whole = c :: ds := by
    cases hwhole with
    | zero => exact ⟨'0', [], rfl⟩
    | digits _ _ => exact ⟨_, _, rfl⟩
  have hc : c.isDigit = true := hall c (hcons ▸ List.mem_cons_self)
  -- a zero ahead is the whole of the number
  have hzero : ¬(c = '0' ∧ (ds ++ (fraction ++ (exponent ++ rest))).head?.any Char.isDigit = true) := by
    rintro ⟨rfl, hnext⟩
    cases hwhole with
    | zero =>
      obtain rfl : ds = [] := (List.cons.inj hcons).2.symm
      rw [List.nil_append] at hnext
      cases hhead : (fraction ++ (exponent ++ rest)).head? with
      | none =>
        rw [hhead] at hnext
        cases hnext
      | some x =>
        rw [hhead, Option.any_some, hends x hhead] at hnext
        cases hnext
    | digits hne _ => exact hne (List.cons.inj hcons).1
  rw [← skip_digits hall hends index] at hskip
  subst hcons
  rw [skipNumber, List.cons_append]
  simp only [hc, Bool.not_true, Bool.false_eq_true, if_false, if_neg hzero]
  exact hskip

end Fieldwise.Json
