import Fieldwise.Proofs.Pattern.Literal
import Fieldwise.Proofs.Template.Grammar
import Fieldwise.Proofs.Template.Replacement

/-!
# Replacing a word

Where the pattern stands for a word and the template for a text, replacing all matches is what anyone
would take the replacement of a word to be (`replaceAll_word`). `replaceWord` is that, without patterns,
templates or places in a text: it goes through the text from left to right, puts the new text for the word
where the word is what comes next, and keeps the character that comes next where it is not.

The word of no characters stands before each character of the text and at its end.
-/

namespace Fieldwise.Template

variable {new : List Char}

/-! ### Replacing a word in a text -/

/-- A text with `new` for each occurrence of a word that is not empty, from left to right. -/
def replaceWord (word new : List Char) : List Char → List Char
  | [] => []
  | c :: text =>
    if word <+: c :: text then new ++ replaceWord word new (text.drop (word.length - 1))
    else c :: replaceWord word new text
  termination_by text => text.length

/-- Where the word does not occur the text stays as it is. -/
theorem replaceWord_eq_self {word text : List Char} (h : ∀ i ≤ text.length, ¬word <+: text.drop i) :
    replaceWord word new text = text := by
  induction text with
  | nil => rw [replaceWord]
  | cons c text ih =>
    have hc : ¬word <+: c :: text := h 0 (Nat.zero_le _)
    rw [replaceWord, if_neg hc, ih fun i hi => h (i + 1) (Nat.succ_le_succ hi)]

/-- The text before the first occurrence of the word stays as it is. -/
theorem replaceWord_append {word before after : List Char} (hword : word ≠ [])
    (h : ∀ i < before.length, ¬word <+: (before ++ (word ++ after)).drop i) :
    replaceWord word new (before ++ (word ++ after)) = before ++ new ++ replaceWord word new after := by
  induction before with
  | nil =>
    obtain ⟨c, word, rfl⟩ := List.exists_cons_of_ne_nil hword
    rw [List.nil_append, List.cons_append, replaceWord, ← List.cons_append,
      if_pos (List.prefix_append _ _), List.length_cons, Nat.add_sub_cancel, List.drop_left]
    rfl
  | cons c before ih =>
    have hc : ¬word <+: c :: (before ++ (word ++ after)) := h 0 (Nat.succ_pos _)
    rw [List.cons_append, replaceWord, if_neg hc, ih fun i hi => h (i + 1) (Nat.succ_lt_succ hi)]
    rfl

/-! ### The matches of a word -/

variable {word : String} {p : Pattern}

/-- From a place on, the matches of a word that is not empty are its occurrences from left to right. -/
theorem weave_matchesFrom_word (hp : Pattern.compile (Pattern.escape word) = .ok p)
    (hword : word.toList ≠ []) {text : Array Char} {start : Nat} (hstart : start ≤ text.size) :
    weave text start ((p.matchesFrom text start).map fun m => (m, new)) =
      replaceWord word.toList new (text.toList.drop start) := by
  fun_induction Pattern.matchesFrom p text start with
  | case1 start hs hm =>
    have hnone := Pattern.find?_escape_eq_none hp hm
    rw [List.map_nil, weave, slice_size, replaceWord_eq_self]
    intro i hi
    rw [List.length_drop, Array.length_toList] at hi
    rw [List.drop_drop]
    exact hnone (start + i) (by omega) (by omega)
  | case2 start hs m hm ih =>
    obtain ⟨⟨after, hafter⟩, hstop, hfirst⟩ := Pattern.find?_escape_eq_some hp hm
    have hb := Pattern.find?_bounds hm
    have hlength := List.length_pos_iff.mpr hword
    rw [m.resume_of_lt (by omega)] at ih ⊢
    -- the text from the place on: what stands before the match, the word, and what stands behind it
    have hrest : text.toList.drop m.stop = after := by
      rw [hstop, ← List.drop_drop, ← hafter, List.drop_left]
    have htext : text.toList.drop start = slice text start m.start ++ (word.toList ++ after) := by
      rw [hafter, ← slice_size, ← slice_size, slice_append text hb.1 (by omega)]
    have hlen : (slice text start m.start).length = m.start - start := by
      rw [slice, Array.length_toList, Array.size_extract, Nat.min_eq_left (by omega)]
    rw [List.map_cons, weave, ih hb.2.2, hrest, htext, replaceWord_append hword]
    intro i hi
    rw [← htext, List.drop_drop]
    exact hfirst (start + i) (by omega) (by omega)
  | case3 start hs => exact absurd hstart hs

/-- The word of no characters is found at every place. -/
theorem find?_escape_empty (hp : Pattern.compile (Pattern.escape "") = .ok p) {text : Array Char}
    {start : Nat} (hs : start ≤ text.size) :
    ∃ m, p.find? text start = some m ∧ m.start = start ∧ m.stop = start := by
  cases hm : p.find? text start with
  | none => exact absurd (Pattern.standsAt_nil text start) (Pattern.find?_escape_eq_none hp hm start
      (Nat.le_refl _) hs)
  | some m =>
    obtain ⟨-, hstop, hfirst⟩ := Pattern.find?_escape_eq_some hp hm
    have hle := (Pattern.find?_bounds hm).1
    have hstart : m.start = start := Nat.le_antisymm (Nat.le_of_not_lt fun hlt =>
      hfirst start (Nat.le_refl _) hlt (Pattern.standsAt_nil text start)) hle
    exact ⟨m, rfl, hstart, by rw [hstop, hstart]; rfl⟩

/-- After an empty match, the matches of the word of no characters are those behind each of the
characters that are left. -/
theorem weave_matchesFrom_empty (hp : Pattern.compile (Pattern.escape "") = .ok p) {text : Array Char}
    {last : Nat} (hlast : last ≤ text.size) :
    weave text last ((p.matchesFrom text (last + 1)).map fun m => (m, new)) =
      (text.toList.drop last).flatMap fun c => c :: new := by
  obtain ⟨left, hleft⟩ : ∃ left, text.size = last + left := ⟨text.size - last, by omega⟩
  induction left generalizing last with
  | zero =>
    rw [Pattern.matchesFrom, if_neg (by omega), List.map_nil, weave, slice_size,
      List.drop_of_length_le (by rw [Array.length_toList]; omega), List.flatMap_nil]
  | succ left ih =>
    have hnext : last + 1 ≤ text.size := by omega
    obtain ⟨m, hm, hstart, hstop⟩ := find?_escape_empty hp hnext
    have hlt : last < text.toList.length := by rw [Array.length_toList]; omega
    have hdrop : text.toList.drop last = text.toList[last] :: text.toList.drop (last + 1) :=
      List.drop_eq_getElem_cons hlt
    rw [Pattern.matchesFrom_of_find?_eq_some hm, List.map_cons, weave,
      m.resume_of_eq (hstart.trans hstop.symm), hstart, hstop, ih hnext (by omega), slice_eq_take,
      hdrop, Nat.add_sub_cancel_left, List.take_succ_cons, List.take_zero, List.flatMap_cons]
    rfl

end Fieldwise.Template

namespace Fieldwise

open Template

/-- **Replacing a word.** For the pattern of a word and a template that stands for a text, replacing all
matches puts the text for the occurrences of the word, from left to right, or around all characters if
the word is empty. -/
theorem replaceAll_word {word template : String} {p : Pattern} {new : List Char}
    (hp : Pattern.compile (Pattern.escape word) = .ok p) (hnew : Denotes template.toList new)
    (value : String) :
    (word ≠ "" → replaceAll p template value =
      .ok (String.ofList (replaceWord word.toList new value.toList))) ∧
    (word = "" → replaceAll p template value =
      .ok (String.ofList (new ++ value.toList.flatMap fun c => c :: new))) := by
  have hweave : replaceAll p template value = .ok (String.ofList (weave value.toList.toArray 0
      ((p.allMatches value.toList.toArray).map fun m => (m, new)))) := by
    rw [replaceAll_eq_weave, mapM_eq_ok_map (hnew.expand p.groups _)]
    show Except.ok (String.ofList (weave _ 0 _)) = _
    rw [← List.map_prod_left_eq_zip]
  rw [hweave, Pattern.allMatches]
  constructor
  · intro hword
    rw [weave_matchesFrom_word hp _ (Nat.zero_le _)]
    · rfl
    · rwa [Ne, String.toList_eq_nil_iff]
  · rintro rfl
    obtain ⟨m, hm, hstart, hstop⟩ := find?_escape_empty hp (Nat.zero_le value.toList.toArray.size)
    rw [Pattern.matchesFrom_of_find?_eq_some hm, List.map_cons, weave,
      m.resume_of_eq (hstart.trans hstop.symm), hstart, hstop, slice_self,
      weave_matchesFrom_empty hp (Nat.zero_le _)]
    rfl

/-- The second of three occurrences overlaps the first, and the third the second. -/
theorem replaceAll_word_overlapping :
    ∃ p q : Pattern, Pattern.compile "é\\.é" = .ok p ∧ Pattern.compile "" = .ok q ∧
      replaceAll p "\\$1" "né.é.é.é" = .ok "n$1.$1" ∧ replaceAll q "\\$1" "né" = .ok "$1n$1é$1" := by
  have hnew : Denotes "\\$1".toList ['$', '1'] :=
    .escaped '$' (.plain (by decide) (by decide) .nil)
  have hcompiles : (Pattern.compile (Pattern.escape "é.é")).isOk = true ∧
      (Pattern.compile (Pattern.escape "")).isOk = true := by decide +kernel
  have hescape : Pattern.escape "é.é" = "é\\.é" ∧ Pattern.escape "" = "" := by decide
  have hreplaced : replaceWord "é.é".toList ['$', '1'] "né.é.é.é".toList = "n$1.$1".toList := by
    simp [replaceWord]
  cases hp : Pattern.compile (Pattern.escape "é.é") with
  | error e =>
    rw [hp] at hcompiles
    cases hcompiles.1
  | ok p =>
    cases hq : Pattern.compile (Pattern.escape "") with
    | error e =>
      rw [hq] at hcompiles
      cases hcompiles.2
    | ok q =>
      refine ⟨p, q, hescape.1 ▸ hp, hescape.2 ▸ hq, ?_, (replaceAll_word hq hnew "né").2 rfl⟩
      rw [(replaceAll_word hp hnew "né.é.é.é").1 (by decide), hreplaced]
      rfl

end Fieldwise
