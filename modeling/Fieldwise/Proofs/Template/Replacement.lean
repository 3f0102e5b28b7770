import Fieldwise.Proofs.Pattern.Matches

/-!
# Replacing every match

`Template.weave` writes a text with some of its matches replaced: the stretches between the matches
stand as they are. `replaceAll` weaves the expansions of all matches into the value
(`replaceAll_eq_weave`), and weaving in what the matches themselves have matched gives the value back
(`weave_matched`), so that nothing but the matches is ever changed.

The loop of `replaceAll` goes by two places, that up to which the value has been dealt with and that
from which the search goes on, which differ behind an empty match. The list of the matches is what they
have in common: `replaceFrom_eq_weave` holds of any two places.
-/

namespace Fieldwise.Template

open Pattern (Match)

/-- The text from the place `last` on, with each of some matches replaced by the text beside it. -/
def weave (text : Array Char) (last : Nat) : List (Match × List Char) → List Char
  | [] => slice text last text.size
  | (m, replacement) :: rest => slice text last m.start ++ replacement ++ weave text m.stop rest

/-- What a match as a whole has matched. -/
def matched (text : Array Char) (m : Match) : List Char := slice text m.start m.stop

/-! ### Slices -/

/-- Two slices that meet are one. -/
theorem slice_append (text : Array Char) {i j k : Nat} (hij : i ≤ j) (hjk : j ≤ k) :
    slice text i j ++ slice text j k = slice text i k := by
  simp only [slice]
  rw [← Array.toList_append, Array.extract_append_extract, Nat.min_eq_left hij, Nat.max_eq_right hjk]

/-- A slice is so many of the characters from a place on. -/
theorem slice_eq_take (text : Array Char) (start stop : Nat) :
    slice text start stop = (text.toList.drop start).take (stop - start) := by
  rw [slice, Array.toList_extract, List.extract_eq_take_drop]

/-- What a text has from a place on is a slice of it. -/
theorem slice_size (text : Array Char) (start : Nat) :
    slice text start text.size = text.toList.drop start := by
  rw [slice_eq_take, ← Array.length_toList, ← List.length_drop, List.take_length]

/-- There is nothing between a place and itself. -/
theorem slice_self (text : Array Char) (place : Nat) : slice text place place = [] := by
  rw [slice_eq_take, Nat.sub_self, List.take_zero]

/-- The whole text is a slice of itself. -/
theorem slice_zero_size (text : Array Char) : slice text 0 text.size = text.toList := by
  rw [slice_size, List.drop_zero]

/-! ### Expanding every match -/

/-- Going on with a result does not change a failure. -/
theorem map_eq_error_iff {ε α β : Type} {f : α → β} {x : Except ε α} {e : ε} :
    x.map f = .error e ↔ x = .error e := by
  cases x <;> simp [Except.map]

/-- What is gone on with is a result. -/
theorem map_eq_ok_iff {ε α β : Type} {f : α → β} {x : Except ε α} {b : β} :
    x.map f = .ok b ↔ ∃ a, x = .ok a ∧ f a = b := by
  cases x <;> simp [Except.map]

/-- An action that may fail can be done for all members of a list just if it can for each of them. -/
theorem exists_mapM_eq_ok_iff {ε α β : Type} {f : α → Except ε β} {l : List α} :
    (∃ bs, l.mapM f = .ok bs) ↔ ∀ a ∈ l, ∃ b, f a = .ok b := by
  induction l with
  | nil => simp [pure, Except.pure]
  | cons a l ih =>
    rw [List.forall_mem_cons, ← ih, List.mapM_cons]
    cases f a with
    | error e => simp [bind, Except.bind]
    | ok b => cases l.mapM f <;> simp [bind, Except.bind, pure, Except.pure]

/-- An action that never fails can be done for all members of a list. -/
theorem mapM_eq_ok_map {ε α β : Type} {f : α → Except ε β} {g : α → β} (h : ∀ a, f a = .ok (g a))
    (l : List α) : l.mapM f = .ok (l.map g) := by
  induction l with
  | nil => rfl
  | cons a l ih =>
    rw [List.mapM_cons, h a, ih]
    rfl

/-! ### The loop -/

variable {p : Pattern} {text : Array Char}

/-- From any two places on, the loop weaves the expansions of the matches that are still to come into
the text that is still to be dealt with. The first expansion that fails is what the loop fails with. -/
theorem replaceFrom_eq_weave (p : Pattern) (template : List Char) (text : Array Char)
    (done : List Char) (lastEnd searchAt : Nat) :
    replaceFrom p template text done lastEnd searchAt =
      ((p.matchesFrom text searchAt).mapM (expand p.groups template text)).map fun replacements =>
        done ++ weave text lastEnd ((p.matchesFrom text searchAt).zip replacements) := by
  fun_induction replaceFrom p template text done lastEnd searchAt with
  | case1 done lastEnd searchAt hs hm =>
    rw [Pattern.matchesFrom_of_find?_eq_none hm]
    rfl
  | case2 done lastEnd searchAt hs m hm ih =>
    rw [Pattern.matchesFrom_of_find?_eq_some hm, List.mapM_cons]
    cases he : expand p.groups template text m with
    | error e => rfl
    | ok replacement =>
      show replaceFrom p template text _ m.stop m.resume = _
      rw [ih replacement]
      cases (p.matchesFrom text m.resume).mapM (expand p.groups template text) with
      | error e => rfl
      | ok replacements =>
        show Except.ok _ = Except.ok (done ++ weave text lastEnd
          ((m, replacement) :: (p.matchesFrom text m.resume).zip replacements))
        rw [weave]
        simp only [List.append_assoc]
  | case3 done lastEnd searchAt hs =>
    rw [Pattern.matchesFrom, if_neg hs]
    rfl

/-- Weaving what the matches have matched into the text gives the text back, from any place on that
lies before the first match. -/
theorem weave_matchesFrom_matched {last start : Nat} (hl : last ≤ start) (ht : last ≤ text.size) :
    weave text last ((p.matchesFrom text start).map fun m => (m, matched text m)) =
      slice text last text.size := by
  fun_induction Pattern.matchesFrom p text start generalizing last with
  | case1 start hs hm => rfl
  | case2 start hs m hm ih =>
    have hb := Pattern.find?_bounds hm
    rw [List.map_cons, weave, ih m.stop_le_resume hb.2.2, matched,
      slice_append text (by omega) hb.2.1, slice_append text (by omega) hb.2.2]
  | case3 start hs => rfl

/-- Weaving what the matches have matched into a text gives the text back. -/
theorem weave_matched (p : Pattern) (text : Array Char) :
    weave text 0 ((p.allMatches text).map fun m => (m, matched text m)) = text.toList := by
  rw [Pattern.allMatches, weave_matchesFrom_matched (Nat.le_refl 0) (Nat.zero_le _), slice_zero_size]

/-! ### The template that stands for the match -/

/-- `$0` is a reference to the match as a whole, whatever groups there are. -/
theorem tokens_dollar_zero (groups : Groups) : tokens groups ['$', '0'] = .ok [.group 0] := by
  have hread : readReference groups ['0'] = .ok (0, []) := by
    simp [readReference, readNumber, digitValue, extendNumber]
  rw [tokens_dollar_of_ok groups hread, tokens_nil, Except.map]

/-- `$0` expands to what has been matched. -/
theorem expand_dollar_zero (groups : Groups) (text : Array Char) (m : Match) :
    expand groups ['$', '0'] text m = .ok (matched text m) := by
  rw [expand, tokens_dollar_zero]
  simp [Except.map, Token.expand, groupText, Match.group?, matched]

end Fieldwise.Template

namespace Fieldwise

open Template

/-- Replacing all matches weaves their expansions into the value, and fails with the first expansion
that fails. -/
theorem replaceAll_eq_weave (p : Pattern) (template value : String) :
    replaceAll p template value =
      ((p.allMatches value.toList.toArray).mapM
          (expand p.groups template.toList value.toList.toArray)).map fun replacements =>
        String.ofList (weave value.toList.toArray 0
          ((p.allMatches value.toList.toArray).zip replacements)) := by
  rw [replaceAll, replaceFrom_eq_weave, Pattern.allMatches]
  cases (p.matchesFrom value.toList.toArray 0).mapM
    (expand p.groups template.toList value.toList.toArray) <;> rfl

/-- Replacing every match by itself changes nothing. -/
theorem replaceAll_dollar_zero (p : Pattern) (value : String) :
    replaceAll p "$0" value = .ok value := by
  rw [replaceAll_eq_weave, show "$0".toList = ['$', '0'] from rfl,
    mapM_eq_ok_map (expand_dollar_zero p.groups value.toList.toArray)]
  show Except.ok (String.ofList (weave _ 0 _)) = _
  rw [← List.map_prod_left_eq_zip, weave_matched]
  simp

/-- A template has no say where nothing is matched. -/
theorem replaceAll_of_find?_eq_none {p : Pattern} {value : String} (template : String)
    (h : p.find? value.toList.toArray 0 = none) : replaceAll p template value = .ok value := by
  rw [replaceAll_eq_weave, Pattern.allMatches, Pattern.matchesFrom_of_find?_eq_none h]
  show Except.ok (String.ofList (slice _ 0 _)) = _
  rw [slice_zero_size]
  simp

/-- **Replacing all matches.** The matches are those that come up one after another from the start of
the value; they are in order and disjoint, an empty one is kept right behind one that is not empty, and
no two empty ones share a place. There is a result just if every match can be expanded, and it is the
value with the expansions woven in for what the matches have matched. -/
theorem replaceAll_weaves_expansions (p : Pattern) (template value : String) :
    let text := value.toList.toArray
    let ms := p.allMatches text
    let expansion := expand p.groups template.toList text
    Pattern.MatchSequence p text 0 ms ∧
    (∀ m ∈ ms, m.start ≤ m.stop ∧ m.stop ≤ text.size) ∧
    ms.Pairwise (fun m m' => m.stop ≤ m'.start) ∧
    (∀ m ∈ ms, m.start < m.stop → ∀ m', p.find? text m.stop = some m' → m' ∈ ms) ∧
    ms.Pairwise (fun m m' => m.start = m.stop → m'.start = m'.stop → m.start ≠ m'.start) ∧
    ((∃ out, replaceAll p template value = .ok out) ↔
      ∀ m ∈ ms, ∃ replacement, expansion m = .ok replacement) ∧
    (∀ out, replaceAll p template value = .ok out ↔ ∃ replacements,
      ms.mapM expansion = .ok replacements ∧ out.toList = weave text 0 (ms.zip replacements)) ∧
    value.toList = weave text 0 (ms.map fun m => (m, matched text m)) ∧
    replaceAll p "$0" value = .ok value ∧
    (p.find? text 0 = none → replaceAll p template value = .ok value) := by
  intro text ms expansion
  have hbounds : ∀ m ∈ ms, m.start ≤ m.stop ∧ m.stop ≤ text.size := fun m hm =>
    (Pattern.bounds_of_mem_matchesFrom hm).2
  have hresume : ms.Pairwise fun m m' => m.resume ≤ m'.start :=
    Pattern.pairwise_matchesFrom p text 0
  refine ⟨Pattern.matchSequence_allMatches p text, hbounds, ?_, ?_, ?_, ?_, ?_,
    (weave_matched p text).symm, replaceAll_dollar_zero p value,
    replaceAll_of_find?_eq_none template⟩
  · exact hresume.imp fun {m m'} h => Nat.le_trans m.stop_le_resume h
  · intro m hm hlt m' hm'
    rw [← m.resume_of_lt hlt] at hm'
    exact Pattern.mem_matchesFrom_of_find? hm hm'
  · -- an empty match is left behind by a whole character
    refine hresume.imp fun {m m'} h he _ heq => ?_
    have := m.start_lt_resume (Nat.le_of_eq he)
    omega
  · rw [replaceAll_eq_weave, ← exists_mapM_eq_ok_iff]
    cases ms.mapM expansion <;> simp [Except.map]
  · intro out
    rw [replaceAll_eq_weave, map_eq_ok_iff]
    refine exists_congr fun replacements => and_congr_right fun _ => ?_
    rw [← String.toList_inj, String.toList_ofList, eq_comm]

end Fieldwise
