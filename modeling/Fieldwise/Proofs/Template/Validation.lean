import Fieldwise.Proofs.Template.Replacement
import Mathlib.Data.List.Basic

/-!
# What checking a template tells

A template is taken apart before any match is looked at, so that whether it can be expanded does not
depend on the match (`Template.expand_eq_error_iff`). The same holds where both are done at once: a scan that
writes as it reads (`Template.expandInto`) fails in the same way with a match and without
(`Template.expandInto_eq_error_iff`). Replacing fails exactly where there is a match and the
template is at fault, and then with the fault that checking the template finds
(`replaceAll_eq_error_iff`).
-/

namespace Fieldwise

/-- The pattern matches somewhere in the value. -/
def Pattern.Matches (p : Pattern) (value : String) : Prop := (p.find? value.toList.toArray 0).isSome

/-- A pattern whose program accepts where it starts matches everywhere. -/
theorem Pattern.matches_of_accept {p : Pattern} (h : p.program.instrs[p.program.entry]? = some .accept)
    (value : String) : p.Matches value := by
  obtain ⟨hlt, -⟩ := Array.getElem?_eq_some_iff.mp h
  have hrun : (p.program.run value.toList.toArray ∅
      [⟨p.program.entry, 0, Nat.le_refl _, Nat.zero_le _, []⟩]).1.isSome = true := by
    rw [Program.run]
    simp only [place?, dif_pos hlt]
    split
    · rename_i hseen
      rw [Std.HashSet.contains_empty] at hseen
      cases hseen
    · simp only [h]
      rfl
  rw [Matches, find?, Program.find?, Program.findFrom, dif_pos (Nat.zero_le _)]
  split
  · rfl
  · rename_i heq
    rw [heq] at hrun
    cases hrun

/-- The empty pattern matches everywhere. -/
theorem Pattern.matches_of_compile_empty {p : Pattern} (h : Pattern.compile "" = .ok p) (value : String) :
    p.Matches value := by
  have haccept : (Pattern.compile "").toOption.map (fun p =>
      decide (p.program.instrs[p.program.entry]? = some .accept)) = some true := by decide +kernel
  rw [h] at haccept
  exact matches_of_accept (of_decide_eq_true (Option.some.inj haccept)) value

namespace Template

variable {groups : Groups} {template : String} {text : Array Char} {m : Pattern.Match} {e : Error}

theorem validate_eq_error_iff :
    validate groups template = .error e ↔ tokens groups template.toList = .error e := by
  rw [validate, map_eq_error_iff]

/-- A dollar sign alone is at fault, whatever groups there are. -/
theorem validate_dollar (groups : Groups) :
    validate groups "$" = .error (.invalidReference .missingIndex) := by
  rw [validate_eq_error_iff]
  exact tokens_dollar_of_error groups rfl

/-- A template cannot be expanded at a match exactly if checking it finds the fault. -/
theorem expand_eq_error_iff :
    expand groups template.toList text m = .error e ↔ validate groups template = .error e := by
  rw [validate_eq_error_iff, expand, map_eq_error_iff]

/-- A template that passes the check can be expanded at every match. -/
theorem exists_expand_of_validate (h : validate groups template = .ok ()) (text : Array Char)
    (m : Pattern.Match) : ∃ replacement, expand groups template.toList text m = .ok replacement := by
  cases hm : expand groups template.toList text m with
  | ok replacement => exact ⟨replacement, rfl⟩
  | error e => cases h.symm.trans (expand_eq_error_iff.mp hm)

/-! ### Writing while reading -/

/-- What a scan writes for a token. -/
def Token.written (captures : Option (Array Char × Pattern.Match)) : Token → List Char
  | .literal c => [c]
  | .group index => captures.elim [] fun (text, m) => groupText text m index

variable {captures : Option (Array Char × Pattern.Match)}

/-- A scan writes what it would write for the tokens, if these were read first. -/
theorem expandInto_eq (groups : Groups) (captures : Option (Array Char × Pattern.Match))
    (done template : List Char) :
    expandInto groups captures done template =
      (tokens groups template).map fun ts => done ++ ts.flatMap (Token.written captures) := by
  -- what is written of the first token comes between what is done and the rest
  have hfirst (done : List Char) (token : Token) (rest : List Char) :
      ((tokens groups rest).map (token :: ·)).map (fun ts => done ++ ts.flatMap (Token.written captures)) =
        (tokens groups rest).map fun ts =>
          done ++ token.written captures ++ ts.flatMap (Token.written captures) := by
    cases tokens groups rest with
    | error e => rfl
    | ok ts => simp only [Except.map, List.flatMap_cons, List.append_assoc]
  fun_induction expandInto groups captures done template with
  | case1 done => rw [tokens_nil, Except.map, List.flatMap_nil, List.append_nil]
  | case2 done => rw [tokens_backslash, Except.map]
  | case3 done c rest ih => rw [ih, tokens_escaped, hfirst, Token.written]
  | case4 done cs e he => rw [tokens_dollar_of_error groups he, Except.map]
  | case5 done cs index rest he _ ih => rw [ih, tokens_dollar_of_ok groups he, hfirst, Token.written]
  | case6 done c cs hslash hdollar ih => rw [ih, tokens_plain groups hslash hdollar, hfirst, Token.written]

/-- A scan fails as checking does, with a match and without. -/
theorem expandInto_eq_error_iff {done : List Char} :
    expandInto groups captures done template.toList = .error e ↔ validate groups template = .error e := by
  rw [validate_eq_error_iff, expandInto_eq, map_eq_error_iff]

/-- With a match, a scan writes what the template makes of it. -/
theorem expandInto_some (groups : Groups) (text : Array Char) (m : Pattern.Match) (done template : List Char) :
    expandInto groups (some (text, m)) done template = (expand groups template text m).map (done ++ ·) := by
  have hwritten : Token.written (some (text, m)) = Token.expand text m := by
    funext token
    cases token <;> rfl
  rw [expandInto_eq, expand, hwritten]
  cases tokens groups template <;> rfl

end Template

open Template

variable {p : Pattern} {template value : String}

/-- There are matches exactly if the first search finds one. -/
theorem Pattern.allMatches_eq_nil_iff : p.allMatches value.toList.toArray = [] ↔ ¬p.Matches value := by
  rw [Pattern.Matches, Pattern.allMatches]
  cases h : p.find? value.toList.toArray 0 with
  | none => simp [Pattern.matchesFrom_of_find?_eq_none h]
  | some m => simp [Pattern.matchesFrom_of_find?_eq_some h]

/-- A template that passes the check can be replaced into every value. -/
theorem exists_replaceAll_of_validate (h : validate p.groups template = .ok ()) (value : String) :
    ∃ out, replaceAll p template value = .ok out := by
  obtain ⟨replacements, hall⟩ := exists_mapM_eq_ok_iff.mpr
    fun m (_ : m ∈ p.allMatches value.toList.toArray) => exists_expand_of_validate h value.toList.toArray m
  rw [replaceAll_eq_weave, hall]
  exact ⟨_, rfl⟩

/-- A template that is at fault fails at the first match. -/
theorem replaceAll_of_validate_error {e : Template.Error} (h : validate p.groups template = .error e)
    (hmatch : p.Matches value) : replaceAll p template value = .error e := by
  have hne : p.allMatches value.toList.toArray ≠ [] := fun hnil =>
    Pattern.allMatches_eq_nil_iff.mp hnil hmatch
  obtain ⟨m, ms, hms⟩ := List.exists_cons_of_ne_nil hne
  rw [replaceAll_eq_weave, hms, List.mapM_cons, expand_eq_error_iff.mpr h]
  rfl

/-- **Replacing and checking.** Replacing fails exactly if the pattern matches and the template is at
fault, and the fault is the one that checking the template finds. -/
theorem replaceAll_eq_error_iff {e : Template.Error} :
    replaceAll p template value = .error e ↔
      p.Matches value ∧ validate p.groups template = .error e := by
  constructor
  · intro h
    have hmatch : p.Matches value := by
      by_contra hnone
      rw [Pattern.Matches, Option.not_isSome_iff_eq_none] at hnone
      cases h.symm.trans (replaceAll_of_find?_eq_none template hnone)
    refine ⟨hmatch, ?_⟩
    cases hv : validate p.groups template with
    | ok _ =>
      obtain ⟨out, hout⟩ := exists_replaceAll_of_validate hv value
      cases h.symm.trans hout
    | error e' =>
      rw [← Except.error.inj ((replaceAll_of_validate_error hv hmatch).symm.trans h)]
  · exact fun ⟨hmatch, hv⟩ => replaceAll_of_validate_error hv hmatch

/-- **Faults do not depend on values.** Whether a template is at fault, and how, shows without a match:
at every match, whichever groups took part in it, expanding fails as checking does, and so does a scan that
writes as it reads, wherever it takes the groups from. So a template that passes the check can be replaced
into every value, and one that does not fails, always in the same way, on just the values that the pattern
matches and leaves all others as they are. -/
theorem replaceAll_faults_of_template (p : Pattern) (template : String) :
    (∀ value e, replaceAll p template value = .error e ↔
      p.Matches value ∧ validate p.groups template = .error e) ∧
    (∀ text m e, expand p.groups template.toList text m = .error e ↔
      validate p.groups template = .error e) ∧
    (∀ captures done e, expandInto p.groups captures done template.toList = .error e ↔
      validate p.groups template = .error e) ∧
    (∀ text m done, expandInto p.groups (some (text, m)) done template.toList =
      (expand p.groups template.toList text m).map (done ++ ·)) ∧
    (validate p.groups template = .ok () → ∀ value, ∃ out, replaceAll p template value = .ok out) ∧
    ∀ e, validate p.groups template = .error e → ∀ value,
      (p.Matches value → replaceAll p template value = .error e) ∧
      (¬p.Matches value → replaceAll p template value = .ok value) := by
  refine ⟨fun value e => replaceAll_eq_error_iff, fun text m e => expand_eq_error_iff,
    fun captures done e => expandInto_eq_error_iff,
    fun text m done => expandInto_some p.groups text m done template.toList,
    exists_replaceAll_of_validate, ?_⟩
  intro e hfault value
  refine ⟨replaceAll_of_validate_error hfault, fun hnone => ?_⟩
  rw [Pattern.Matches, Option.not_isSome_iff_eq_none] at hnone
  exact replaceAll_of_find?_eq_none template hnone

end Fieldwise
