import Fieldwise.Proofs.Template.Grammar
import Fieldwise.Template.Number

/-!
# Maximal munch

Behind a dollar sign a number is read as far as it can be: of all that its digits begin with, the longest whose
value is the number of a group (`Munches`). Digits that are left over are text like any other.

The number is kept in a machine word. A product or a sum is there only if a word holds it
(`Number.times?_eq_some_iff`, `Number.plus?_eq_some_iff`), so that a number that is put together from them is
exact, and where one is not there the number would be past its bound anyway (`Number.extend?_cases`). Hence
reading in words is reading (`Number.extendNumber_eq`), however many digits there are.
-/

namespace Fieldwise.Template

/-! ### The longest number -/

/-- Of what the digits begin with, `read` is the longest whose value is at most `count`. -/
structure Munches (count : Nat) (digits read : List Char) : Prop where
  begins : read <+: digits
  le_count : Nat.ofDigitChars 10 read 0 ≤ count
  longest : ∀ other : List Char, other <+: digits → Nat.ofDigitChars 10 other 0 ≤ count →
    other.length ≤ read.length

section Digits

variable {count : Nat} {first : Char} {run rest digits text used : List Char}

/-- The value of digits does not depend on whether the first has been read before. -/
theorem ofDigitChars_cons_zero (first : Char) (run : List Char) :
    Nat.ofDigitChars 10 (first :: run) 0 = Nat.ofDigitChars 10 run (digitValue first) := by
  rw [Nat.ofDigitChars_cons, Nat.mul_zero, Nat.zero_add]
  rfl

/-- Digits that a text begins with are among the first digits of the text. -/
theorem prefix_takeWhile_isDigit (h : digits <+: text) (hdigits : ∀ c ∈ digits, c.isDigit = true) :
    digits <+: text.takeWhile Char.isDigit := by
  obtain ⟨rest, rfl⟩ := h
  rw [List.takeWhile_append_of_pos hdigits]
  exact List.prefix_append digits _

/-- The longest run behind the first digit makes the longest number. -/
theorem LongestRun.munches (h : LongestRun count (digitValue first) run rest) :
    Munches count (first :: (run ++ rest).takeWhile Char.isDigit) (first :: run) where
  begins := List.cons_prefix_cons.mpr
    ⟨rfl, prefix_takeWhile_isDigit (List.prefix_append run rest) h.isDigit⟩
  le_count := by
    rw [ofDigitChars_cons_zero]
    exact h.le_count
  longest := by
    intro other hother hle
    cases other with
    | nil => exact Nat.zero_le _
    | cons c other =>
      obtain ⟨rfl, hdigits⟩ := List.cons_prefix_cons.mp hother
      have hisDigit : ∀ d ∈ other, d.isDigit = true := fun d hd =>
        List.mem_takeWhile_imp (hdigits.subset hd)
      have hprefix := hdigits.trans (List.takeWhile_prefix _)
      rw [ofDigitChars_cons_zero] at hle
      exact Nat.succ_le_succ (h.longest other hprefix hisDigit hle)

/-- Zeros add nothing to zero. -/
theorem ofDigitChars_replicate_zero (k : Nat) : Nat.ofDigitChars 10 (List.replicate k '0') 0 = 0 := by
  induction k with
  | zero => rfl
  | succ k ih =>
    rw [List.replicate_succ, Nat.ofDigitChars_cons]
    exact ih

/-- All zeros at the beginning are part of the number. -/
theorem Munches.zeros (h : Munches count ('0' :: text.takeWhile Char.isDigit) ('0' :: used)) {k : Nat}
    (hzeros : List.replicate k '0' <+: text) : List.replicate k '0' <+: used := by
  have hdigits : List.replicate k '0' <+: text.takeWhile Char.isDigit :=
    prefix_takeWhile_isDigit hzeros fun c hc => by rw [List.eq_of_mem_replicate hc]; rfl
  have hvalue : Nat.ofDigitChars 10 ('0' :: List.replicate k '0') 0 ≤ count := by
    rw [← List.replicate_succ, ofDigitChars_replicate_zero]
    exact Nat.zero_le count
  have hlength := h.longest _ (List.cons_prefix_cons.mpr ⟨rfl, hdigits⟩) hvalue
  have hused := (List.cons_prefix_cons.mp h.begins).2
  exact List.prefix_of_prefix_length_le hdigits hused (Nat.le_of_succ_le_succ hlength)

/-- A digit is at most nine. -/
theorem digitValue_le_nine {c : Char} (h : c.isDigit = true) : digitValue c ≤ 9 := by
  obtain ⟨-, hhigh⟩ := Char.isDigit_iff_toNat.mp h
  exact Nat.sub_le_sub_right hhigh '0'.toNat

end Digits

/-! ### Digits that are left over -/

section Tokens

variable {groups : Groups} {digits : List Char}

theorem reads_digits (h : ∀ c ∈ digits, c.isDigit = true) (rest : List Char) :
    Reads groups (digits ++ rest) (digits.map Token.literal) rest := by
  induction digits with
  | nil => exact .nil rest
  | cons c digits ih =>
    obtain ⟨hc, hdigits⟩ := List.forall_mem_cons.mp h
    have hslash : c ≠ '\\' := by
      rintro rfl
      exact absurd hc (by decide)
    have hdollar : c ≠ '$' := by
      rintro rfl
      exact absurd hc (by decide)
    have hreads := Reads.cons (.plain hslash hdollar) (ih hdigits)
    rwa [List.singleton_append, ← List.cons_append] at hreads

/-- A reference by number is a token, and so is each digit that is left over. -/
theorem tokens_numbered {first : Char} {used unused rest : List Char} (hfirst : first.isDigit = true)
    (hle : digitValue first ≤ groups.count)
    (hused : LongestRun groups.count (digitValue first) used (unused ++ rest))
    (hunused : ∀ c ∈ unused, c.isDigit = true) :
    tokens groups ('$' :: first :: (used ++ (unused ++ rest))) = (tokens groups rest).map fun ts =>
      .group (Nat.ofDigitChars 10 used (digitValue first)) :: (unused.map Token.literal ++ ts) := by
  have hspells := Spells.reference (.numbered hfirst hle hused)
  rw [← List.cons_append, ← List.cons_append, tokens_of_spells hspells,
    tokens_of_reads (reads_digits hunused rest)]
  cases tokens groups rest <;> rfl

end Tokens

namespace Number

/-! ### Arithmetic of words -/

section Arithmetic

variable {a b c count number longer : USize} {d : Char}

/-- A word that is there unless it overflows is there exactly if a word holds the number that it stands
for. -/
theorem eq_some_iff_of_overflow {n : Nat} {overflow : Bool} (hoverflow : overflow = decide (USize.size ≤ n))
    (hexact : ¬overflow = true → a.toNat = n) :
    (if overflow then none else some a) = some c ↔ n = c.toNat := by
  by_cases h : overflow = true
  · have hle : USize.size ≤ n := of_decide_eq_true (hoverflow ▸ h)
    rw [if_pos h]
    refine iff_of_false nofun fun heq => ?_
    exact absurd c.toNat_lt_size (Nat.not_lt.mpr (heq ▸ hle))
  · rw [if_neg h, Option.some.injEq, ← USize.toNat_inj, hexact h]

/-- A product is there exactly if a word holds it. -/
theorem times?_eq_some_iff : times? a b = some c ↔ a.toNat * b.toNat = c.toNat :=
  eq_some_iff_of_overflow rfl BitVec.toNat_mul_of_not_umulOverflow

/-- A sum is there exactly if a word holds it. -/
theorem plus?_eq_some_iff : plus? a b = some c ↔ a.toNat + b.toNat = c.toNat :=
  eq_some_iff_of_overflow rfl BitVec.toNat_add_of_not_uaddOverflow

/-- Every digit fits into a word. -/
theorem digit?_eq_some_iff : digit? d = some a ↔ d.isDigit = true ∧ digitValue d = a.toNat := by
  rw [digit?]
  by_cases h : d.isDigit = true
  · have hsmall : digitValue d < USize.size :=
      calc digitValue d ≤ 9 := digitValue_le_nine h
        _ < 2 ^ 32 := by decide
        _ ≤ USize.size := USize.le_size
    rw [if_pos h, Option.some.injEq, ← USize.toNat_inj, USize.toNat_ofNat_of_lt' hsmall]
    exact (and_iff_right h).symm
  · rw [if_neg h]
    exact iff_of_false nofun fun hand => h hand.1

/-- A step goes on with the exact number just if this is within the bound. -/
theorem extend?_eq_some_iff : extend? count number d = some longer ↔
    d.isDigit = true ∧ number.toNat * 10 + digitValue d = longer.toNat ∧ longer ≤ count := by
  have hten : (10 : USize).toNat = 10 := USize.toNat_ofNat_of_lt_32 (by decide)
  constructor
  · intro h
    obtain ⟨digit, hdigit, h⟩ := Option.bind_eq_some_iff.mp h
    obtain ⟨shifted, hshifted, h⟩ := Option.bind_eq_some_iff.mp h
    obtain ⟨sum, hsum, h⟩ := Option.bind_eq_some_iff.mp h
    obtain ⟨hisDigit, hdigit⟩ := digit?_eq_some_iff.mp hdigit
    rw [times?_eq_some_iff, hten] at hshifted
    rw [plus?_eq_some_iff] at hsum
    split at h
    · rename_i hle
      obtain rfl := Option.some.inj h
      exact ⟨hisDigit, by rw [hshifted, hdigit, hsum], hle⟩
    · cases h
  · rintro ⟨hisDigit, hvalue, hle⟩
    have hlt := longer.toNat_lt_size
    have hdigit : digit? d = some (USize.ofNat (digitValue d)) :=
      digit?_eq_some_iff.mpr ⟨hisDigit, (USize.toNat_ofNat_of_lt' (by omega)).symm⟩
    have hshifted : times? number 10 = some (USize.ofNat (number.toNat * 10)) := by
      rw [times?_eq_some_iff, hten, USize.toNat_ofNat_of_lt' (by omega)]
    have hsum : plus? (USize.ofNat (number.toNat * 10)) (USize.ofNat (digitValue d)) = some longer := by
      rw [plus?_eq_some_iff, USize.toNat_ofNat_of_lt' (by omega), USize.toNat_ofNat_of_lt' (by omega), hvalue]
    refine Option.bind_eq_some_iff.mpr ⟨_, hdigit, Option.bind_eq_some_iff.mpr ⟨_, hshifted,
      Option.bind_eq_some_iff.mpr ⟨_, hsum, ?_⟩⟩⟩
    exact if_pos hle

/-- Where a step does not go on, there is no digit, or the number with it is past the bound, whether or not a
word could hold it. -/
theorem lt_of_extend?_eq_none (h : extend? count number d = none) (hd : d.isDigit = true) :
    count.toNat < number.toNat * 10 + digitValue d := by
  by_contra hnot
  have hle := Nat.not_lt.mp hnot
  have hlt := count.toNat_lt_size
  have hexact : (USize.ofNat (number.toNat * 10 + digitValue d)).toNat = number.toNat * 10 + digitValue d :=
    USize.toNat_ofNat_of_lt' (by omega)
  have hsome := extend?_eq_some_iff.mpr ⟨hd, hexact.symm, USize.le_iff_toNat_le.mpr (hexact ▸ hle)⟩
  rw [h] at hsome
  cases hsome

/-- Reading on in words is reading on. -/
theorem extendNumber_eq (count number : USize) (text : List Char) :
    extendNumber count.toNat number.toNat text =
      ((extend count number text).1.toNat, (extend count number text).2) := by
  induction text generalizing number with
  | nil => rfl
  | cons d text ih =>
    rw [extend, extendNumber]
    cases hextend : extend? count number d with
    | some longer =>
      obtain ⟨hd, hvalue, hle⟩ := extend?_eq_some_iff.mp hextend
      rw [if_pos hd]
      simp only [hvalue, if_pos (USize.le_iff_toNat_le.mp hle)]
      exact ih longer
    | none =>
      by_cases hd : d.isDigit = true
      · have hlt := lt_of_extend?_eq_none hextend hd
        rw [if_pos hd]
        simp only [if_neg (Nat.not_le.mpr hlt)]
      · rw [if_neg hd]

end Arithmetic

/-! ### Reading -/

section Read

variable {count : USize} {first : Char}

theorem toNat_firstDigit (hfirst : first.isDigit = true) : ((digit? first).getD 0).toNat = digitValue first := by
  obtain ⟨digit, hdigit⟩ : ∃ digit, digit? first = some digit := by
    rw [digit?, if_pos hfirst]
    exact ⟨_, rfl⟩
  rw [hdigit]
  exact (digit?_eq_some_iff.mp hdigit).2.symm

/-- A first digit past the bound is no group, and nothing is read behind it. -/
theorem read_of_lt (hfirst : first.isDigit = true) (hlt : count.toNat < digitValue first) (text : List Char) :
    read count first text = (.error (.noSuchGroup (digitValue first)), text) := by
  have hdigit := toNat_firstDigit hfirst
  have hnot : ¬(digit? first).getD 0 ≤ count := by
    rw [USize.le_iff_toNat_le, hdigit]
    exact Nat.not_le.mpr hlt
  simp only [read, if_neg hnot, hdigit]

/-- Otherwise the number is read on. -/
theorem read_of_le (hfirst : first.isDigit = true) (hle : digitValue first ≤ count.toNat) (text : List Char) :
    ∃ (number : USize) (rest : List Char), read count first text = (.ok number, rest) ∧
      extendNumber count.toNat (digitValue first) text = (number.toNat, rest) := by
  have hdigit := toNat_firstDigit hfirst
  have hwithin : (digit? first).getD 0 ≤ count := by
    rw [USize.le_iff_toNat_le, hdigit]
    exact hle
  refine ⟨(extend count ((digit? first).getD 0) text).1, (extend count ((digit? first).getD 0) text).2, ?_, ?_⟩
  · simp only [read, if_pos hwithin]
  · rw [← hdigit]
    exact extendNumber_eq count _ text

end Read

end Number

/-- **Maximal munch.** Let a digit stand behind the dollar sign, with any text behind it, and let there be any
number of groups that a machine word holds. If the digit is past that number, it is the number of no group,
and nothing is read behind it. Otherwise the longest number is read that the digits begin with and that is at
most the number of groups, without a product or a sum that wraps, and the rest of the text is left: of it, the
digits that are left over are each a character of the replacement. Zeros at the beginning are read however many
there are, and with nine groups or more every reference by number is one to a group. -/
theorem numbers_munch (count : USize) (first : Char) (hfirst : first.isDigit = true) (text : List Char)
    (names : Pattern.GroupNames) :
    let digits := first :: text.takeWhile Char.isDigit
    let groups : Groups := ⟨count.toNat, names⟩
    (count.toNat < digitValue first →
      Number.read count first text = (.error (.noSuchGroup (digitValue first)), text) ∧
      readNumber groups.count first text = .error (.noSuchGroup (digitValue first)) ∧
      tokens groups ('$' :: first :: text) = .error (.noSuchGroup (digitValue first))) ∧
    (digitValue first ≤ count.toNat →
      ∃ (used unused rest : List Char) (number : USize), text = used ++ (unused ++ rest) ∧
        digits = first :: (used ++ unused) ∧ Munches count.toNat digits (first :: used) ∧
        number.toNat = Nat.ofDigitChars 10 (first :: used) 0 ∧
        Number.read count first text = (.ok number, unused ++ rest) ∧
        readNumber groups.count first text = .ok (number.toNat, unused ++ rest) ∧
        tokens groups ('$' :: first :: text) =
          (tokens groups rest).map (fun ts => .group number.toNat :: (unused.map .literal ++ ts)) ∧
        (first = '0' → ∀ k, List.replicate k '0' <+: text → List.replicate k '0' <+: used)) ∧
    (9 ≤ count.toNat → ∃ (number : USize) (rest : List Char),
      Number.read count first text = (.ok number, rest) ∧
      readNumber groups.count first text = .ok (number.toNat, rest)) := by
  intro digits groups
  refine ⟨fun hlt => ?_, fun hle => ?_, fun hnine => ?_⟩
  · refine ⟨Number.read_of_lt hfirst hlt text, ?_, ?_⟩
    · rw [readNumber, if_neg (Nat.not_le.mpr hlt)]
    · exact tokens_of_stuck (.reference (.noSuchGroup hfirst hlt text))
  · obtain ⟨used, after, rfl, hused, hextend⟩ := longestRun_extendNumber hle text
    obtain ⟨unused, rest, rfl, hunused, hrun⟩ : ∃ unused rest, after = unused ++ rest ∧
        (∀ c ∈ unused, c.isDigit = true) ∧ after.takeWhile Char.isDigit = unused :=
      ⟨after.takeWhile Char.isDigit, after.dropWhile Char.isDigit, List.takeWhile_append_dropWhile.symm,
        fun _ => List.mem_takeWhile_imp, rfl⟩
    obtain ⟨number, left, hread, hwords⟩ := Number.read_of_le hfirst hle (used ++ (unused ++ rest))
    obtain ⟨hnumber, rfl⟩ := Prod.mk.inj (hwords.symm.trans hextend)
    have hmunches := hused.munches
    refine ⟨used, unused, rest, number, rfl, ?_, hmunches, ?_, hread, ?_, ?_, ?_⟩
    · show first :: (used ++ (unused ++ rest)).takeWhile Char.isDigit = _
      rw [List.takeWhile_append_of_pos hused.isDigit, hrun]
    · rw [hnumber, ofDigitChars_cons_zero]
    · rw [readNumber, if_pos hle, hwords]
    · rw [hnumber]
      exact tokens_numbered hfirst hle hused hunused
    · rintro rfl k hzeros
      exact hmunches.zeros hzeros
  · have hle : digitValue first ≤ count.toNat := Nat.le_trans (digitValue_le_nine hfirst) hnine
    obtain ⟨number, rest, hread, hwords⟩ := Number.read_of_le hfirst hle text
    exact ⟨number, rest, hread, by rw [readNumber, if_pos hle, hwords]⟩

/-- One such number, whose last digit would lead past the number of groups, and past what a word of 32 bits
holds; and one that is that of no group. -/
theorem numbers_munch_thirty_two_bits :
    '4'.isDigit = true ∧ digitValue '4' ≤ (4294967295 : USize).toNat ∧
      (∃ number : USize, number.toNat = 4294967295 ∧
        Number.read 4294967295 '4' "2949672950 groups".toList = (.ok number, "0 groups".toList)) ∧
      Number.read 1 '2' "0 groups".toList = (.error (.noSuchGroup 2), "0 groups".toList) := by
  have hcount : (4294967295 : USize).toNat = 4294967295 := USize.toNat_ofNat_of_lt_32 (by decide)
  have hle : digitValue '4' ≤ (4294967295 : USize).toNat := by rw [hcount]; decide
  obtain ⟨used, unused, rest, number, -, -, -, -, hread, hnumber, -⟩ :=
    (numbers_munch 4294967295 '4' rfl "2949672950 groups".toList .empty).2.1 hle
  have hexact : readNumber 4294967295 '4' "2949672950 groups".toList =
      .ok (4294967295, "0 groups".toList) := by decide
  dsimp only at hnumber
  rw [hcount, hexact] at hnumber
  obtain ⟨hvalue, hrest⟩ := Prod.mk.inj (Except.ok.inj hnumber)
  have hlt : (1 : USize).toNat < digitValue '2' := by rw [USize.toNat_one]; decide
  have hnone := (numbers_munch 1 '2' rfl "0 groups".toList .empty).1 hlt
  exact ⟨rfl, hle, ⟨number, hvalue.symm, hrest ▸ hread⟩, hnone.1⟩

end Fieldwise.Template
