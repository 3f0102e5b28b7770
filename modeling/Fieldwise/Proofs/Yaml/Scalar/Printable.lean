import Fieldwise.Proofs.Yaml.Scalar.Block
import Fieldwise.Proofs.Yaml.Scalar.Quoted

/-!
# What is written is printable

Whatever a text holds, no character is written for it but printable ones.
-/

namespace Fieldwise.Yaml

variable {indent : Nat} {text : List Char}

theorem isAllowed_of_isPrintable {x : Char} (h : isPrintable x = true) : isAllowed x = true := by
  have hvalid : x.toNat < 0xD800 ∨ 0xDFFF < x.toNat ∧ x.toNat < 0x110000 := x.valid
  simp only [isPrintable, isAllowed, Bool.or_eq_true, Bool.and_eq_true, beq_iff_eq, decide_eq_true_eq, bne_iff_ne,
    ne_eq] at *
  omega

theorem ne_return_of_isPrintable {x : Char} (h : isPrintable x = true) : x ≠ '\r' := by
  rintro rfl
  exact absurd h (by decide)

/-! ### The forms -/

theorem forall_mem_writeSingle {P : Char → Prop} (hspace : P ' ') (hquote : P '\'') (htext : ∀ x ∈ text, P x)
    (broken : Bool) : ∀ x ∈ writeSingle indent broken text, P x := by
  have hindent : ∀ broken : Bool, ∀ y ∈ (if broken then spaces indent else []), P y := by
    intro broken y hy
    split at hy
    · rwa [mem_spaces hy]
    · cases hy
  induction text generalizing broken with
  | nil => exact List.forall_mem_append.mpr ⟨hindent broken, List.forall_mem_singleton.mpr hquote⟩
  | cons x text ih =>
    obtain ⟨hx, htext⟩ := List.forall_mem_cons.mp htext
    rw [writeSingle]
    split
    · exact List.forall_mem_cons.mpr ⟨hx, ih htext true⟩
    · refine List.forall_mem_append.mpr ⟨List.forall_mem_append.mpr ⟨hindent broken, ?_⟩, ih htext false⟩
      split
      · simpa using hquote
      · simpa using hx

theorem isPrintable_upperDigit : ∀ n < 16, isPrintable (upperDigit n) = true := by decide

theorem isPrintable_hexOfWidth (n width : Nat) : ∀ x ∈ hexOfWidth n width, isPrintable x = true := by
  induction width generalizing n with
  | zero => nofun
  | succ width ih =>
    rw [hexOfWidth]
    exact List.forall_mem_append.mpr ⟨ih (n / 16),
      List.forall_mem_singleton.mpr (isPrintable_upperDigit _ (Nat.mod_lt n (by decide)))⟩

theorem isPrintable_of_escapeLetter? {x letter : Char} (h : escapeLetter? x = some letter) :
    isPrintable letter = true := by
  unfold escapeLetter? at h
  split at h
  case h_15 => cases h
  all_goals
    obtain rfl := Option.some.inj h
    rfl

theorem isPrintable_writeEscaped (x : Char) : ∀ y ∈ writeEscaped x, isPrintable y = true := by
  have hnumber : ∀ (letter : Char) (width : Nat), isPrintable letter = true →
      ∀ y ∈ '\\' :: letter :: hexOfWidth x.toNat width, isPrintable y = true := fun letter width h =>
    List.forall_mem_cons.mpr ⟨rfl, List.forall_mem_cons.mpr ⟨h, isPrintable_hexOfWidth _ _⟩⟩
  unfold writeEscaped
  split
  · rename_i hself
    simp only [Bool.and_eq_true] at hself
    exact List.forall_mem_singleton.mpr hself.1.1.1
  · split
    · rename_i letter hletter
      exact List.forall_mem_cons.mpr ⟨rfl, List.forall_mem_singleton.mpr (isPrintable_of_escapeLetter? hletter)⟩
    · dsimp only
      split_ifs
      · exact hnumber 'x' 2 rfl
      · exact hnumber 'u' 4 rfl
      · exact hnumber 'U' 8 rfl

theorem isPrintable_literalHeader (text : List Char) : ∀ x ∈ literalHeader text, isPrintable x = true := by
  rw [literalHeader_eq]
  cases hintOf text <;> cases chompingOf text <;> simp [hintSign, Chomping.sign, isPrintable]

/-! ### Which form is chosen -/

theorem formOf_eq_plain (h : formOf text = .plain) :
    isAmbiguous text = false ∧ allowsPlain text = true := by
  simp only [formOf] at h
  split_ifs at h with h₁ h₂ h₃
  simpa using h₃

theorem formOf_eq_single (h : formOf text = .single) : '\n' ∉ text ∧ allowsSingle text = true := by
  simp only [formOf] at h
  split_ifs at h with h₁ h₂ h₃ h₄
  exact ⟨by simpa using h₁, h₄⟩

theorem formOf_eq_literal (h : formOf text = .literal) : '\n' ∈ text ∧ allowsLiteral text = true := by
  simp only [formOf] at h
  split_ifs at h with h₁ h₂
  exact ⟨by simpa using h₁, h₂⟩

/-- **Printable characters.** No other character is written for a text. -/
theorem isPrintable_writeScalar (indent : Nat) (text : String) :
    ∀ x ∈ writeScalar indent text, isPrintable x = true := by
  have hnewline : ∀ x ∈ ['\n'], isPrintable x = true := List.forall_mem_singleton.mpr rfl
  rw [writeScalar]
  generalize text.toList = text
  cases hform : formOf text with
  | plain =>
    have h := (formOf_eq_plain hform).2
    simp only [allowsPlain, Bool.and_eq_true, List.all_eq_true] at h
    exact List.forall_mem_append.mpr ⟨h.1.1.1.1, hnewline⟩
  | single =>
    have h := (formOf_eq_single hform).2
    simp only [allowsSingle, Bool.and_eq_true, List.all_eq_true] at h
    exact List.forall_mem_append.mpr ⟨List.forall_mem_cons.mpr
      ⟨rfl, forall_mem_writeSingle (P := fun x => isPrintable x = true) rfl rfl h.1.1 false⟩, hnewline⟩
  | double =>
    refine List.forall_mem_append.mpr ⟨List.forall_mem_cons.mpr ⟨rfl, fun x hx => ?_⟩, by simp [isPrintable]⟩
    obtain ⟨y, -, hy⟩ := List.mem_flatMap.mp hx
    exact isPrintable_writeEscaped y x hy
  | literal =>
    have h := (formOf_eq_literal hform).2
    simp only [allowsLiteral, Bool.and_eq_true, List.all_eq_true] at h
    refine List.forall_mem_append.mpr ⟨List.forall_mem_append.mpr ⟨isPrintable_literalHeader text,
      List.forall_mem_cons.mpr ⟨rfl, ?_⟩⟩, ?_⟩
    · exact forall_mem_writeLines (P := fun x => isPrintable x = true) rfl h.1.1 true
    · split
      · exact List.forall_mem_nil _
      · exact hnewline

end Fieldwise.Yaml
