import Fieldwise.Template.Token
import Mathlib.Data.List.Infix

/-!
# Numbers in templates

The number of a group goes on as long as it is the number of a group. `LongestRun` says which digits
these are without saying how they are found: of all runs of digits that a text begins with, the longest
that keeps the number within its bound. Reading digit by digit finds just this run
(`extendNumber_of_longestRun`), since a number that is past its bound stays there however many digits follow.
-/

namespace Fieldwise.Template

/-- Of the runs of digits that the text `run ++ rest` begins with, `run` is the longest that keeps a
number, of which `n` has been read, at most `count`. -/
structure LongestRun (count n : Nat) (run rest : List Char) : Prop where
  isDigit : ∀ c ∈ run, c.isDigit = true
  le_count : Nat.ofDigitChars 10 run n ≤ count
  longest : ∀ run' : List Char, run' <+: run ++ rest → (∀ c ∈ run', c.isDigit = true) →
    Nat.ofDigitChars 10 run' n ≤ count → run'.length ≤ run.length

/-- A number does not become smaller as digits are added to it. -/
theorem le_ofDigitChars (n : Nat) (digits : List Char) : n ≤ Nat.ofDigitChars 10 digits n := by
  induction digits generalizing n with
  | nil => exact Nat.le_refl n
  | cons c digits ih =>
    rw [Nat.ofDigitChars_cons]
    exact Nat.le_trans (by omega) (ih _)

variable {count n : Nat} {c : Char} {run rest run' rest' : List Char}

/-- Where no digit can be added, the longest run is empty. -/
theorem LongestRun.nil (hn : n ≤ count) (h : ∀ c, rest.head? = some c → c.isDigit = true →
    count < 10 * n + digitValue c) : LongestRun count n [] rest where
  isDigit := nofun
  le_count := hn
  longest := by
    intro run hrun hdigits hle
    cases run with
    | nil => exact Nat.le_refl 0
    | cons c run =>
      obtain ⟨after, hafter⟩ := hrun
      have hpast := h c (by rw [List.nil_append] at hafter; rw [← hafter]; rfl)
        (hdigits c List.mem_cons_self)
      rw [Nat.ofDigitChars_cons] at hle
      have := le_ofDigitChars (10 * n + digitValue c) run
      exact absurd hle (by simp only [digitValue] at *; omega)

/-- Where a digit can be added, it is the first of the longest run. -/
theorem LongestRun.cons (hc : c.isDigit = true)
    (h : LongestRun count (10 * n + digitValue c) run rest) : LongestRun count n (c :: run) rest where
  isDigit := List.forall_mem_cons.mpr ⟨hc, h.isDigit⟩
  le_count := h.le_count
  longest := by
    intro run' hrun' hdigits hle
    cases run' with
    | nil => exact Nat.zero_le _
    | cons c' run' =>
      obtain ⟨rfl, hprefix⟩ := List.cons_prefix_cons.mp hrun'
      have := h.longest run' hprefix (List.forall_mem_cons.mp hdigits).2 hle
      simp only [List.length_cons]
      omega

/-- There is only one longest run. -/
theorem LongestRun.unique (h : LongestRun count n run rest) (h' : LongestRun count n run' rest')
    (heq : run ++ rest = run' ++ rest') : run = run' ∧ rest = rest' := by
  have hprefix : run' <+: run ++ rest := ⟨rest', heq.symm⟩
  have hprefix' : run <+: run' ++ rest' := ⟨rest, heq⟩
  have hlen := h.longest run' hprefix h'.isDigit h'.le_count
  have hlen' := h'.longest run hprefix' h.isDigit h.le_count
  exact List.append_inj heq (by omega)

/-- Reading on a number finds the longest run. -/
theorem longestRun_extendNumber (hn : n ≤ count) (text : List Char) :
    ∃ run rest, text = run ++ rest ∧ LongestRun count n run rest ∧
      extendNumber count n text = (Nat.ofDigitChars 10 run n, rest) := by
  induction text generalizing n with
  | nil => exact ⟨[], [], rfl, .nil hn nofun, rfl⟩
  | cons c text ih =>
    have hvalue : n * 10 + digitValue c = 10 * n + digitValue c := by omega
    unfold extendNumber
    by_cases hc : c.isDigit = true
    · by_cases hle : n * 10 + digitValue c ≤ count
      · obtain ⟨run, rest, rfl, hrun, hextend⟩ := ih hle
        rw [hvalue] at hrun
        refine ⟨c :: run, rest, rfl, hrun.cons hc, ?_⟩
        rw [if_pos hc]
        simp only [if_pos hle]
        rw [hextend, hvalue, Nat.ofDigitChars_cons]
        rfl
      · refine ⟨[], c :: text, rfl, .nil hn ?_, ?_⟩
        · rintro x ⟨⟩ _
          omega
        · rw [if_pos hc]
          simp only [if_neg hle]
          rfl
    · refine ⟨[], c :: text, rfl, .nil hn ?_, ?_⟩
      · rintro x ⟨⟩ hx
        exact absurd hx hc
      · rw [if_neg hc]
        rfl

/-- A number is read on up to the end of the longest run. -/
theorem extendNumber_of_longestRun (hn : n ≤ count) (h : LongestRun count n run rest) :
    extendNumber count n (run ++ rest) = (Nat.ofDigitChars 10 run n, rest) := by
  obtain ⟨run', rest', heq, hrun', hextend⟩ := longestRun_extendNumber hn (run ++ rest)
  obtain ⟨rfl, rfl⟩ := h.unique hrun' heq
  exact hextend

/-- A number whose digits are those of a natural number within the bound is that number, if there is
nothing after it. -/
theorem longestRun_toDigits {k : Nat} (hk : k ≤ count) :
    ∃ first run, Nat.toDigits 10 k = first :: run ∧ first.isDigit = true ∧ digitValue first ≤ count ∧
      LongestRun count (digitValue first) run [] ∧ Nat.ofDigitChars 10 run (digitValue first) = k := by
  obtain ⟨first, run, hdigits⟩ := List.exists_cons_of_ne_nil (Nat.toDigits_ne_nil (n := k) (b := 10))
  have hmem : ∀ c ∈ first :: run, c.isDigit = true := fun c hc =>
    Nat.isDigit_of_mem_toDigits (by decide) (by decide) (hdigits ▸ hc)
  have hvalue : Nat.ofDigitChars 10 run (digitValue first) = k := by
    have hread : Nat.ofDigitChars 10 (Nat.toDigits 10 k) 0 = k := Nat.ofDigitChars_ten_toDigits
    rw [hdigits, Nat.ofDigitChars_cons, Nat.mul_zero, Nat.zero_add] at hread
    exact hread
  refine ⟨first, run, hdigits, hmem first List.mem_cons_self, ?_, ⟨?_, ?_, ?_⟩, hvalue⟩
  · calc digitValue first ≤ Nat.ofDigitChars 10 run (digitValue first) := le_ofDigitChars _ _
      _ ≤ count := hvalue ▸ hk
  · exact (List.forall_mem_cons.mp hmem).2
  · exact hvalue ▸ hk
  · intro run' hrun' _ _
    rw [List.append_nil] at hrun'
    exact hrun'.length_le

end Fieldwise.Template
