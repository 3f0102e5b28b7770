import Fieldwise.Proofs.Logging
import Fieldwise.RuleSet
import Mathlib.Data.List.Induction
import Mathlib.Data.List.Nodup

/-!
# What a rule set holds

`RuleSource.settle` says which rules are left of some that are registered one after another: one for
each field, in the order in which the fields first come up, and of each field the latest.
`RuleSet.Holds` ties a rule set to the rules that have been registered: its rules are those that are
left, and its index is the inverse of their order. Adding a rule keeps the tie (`Holds.insert`): a rule
for a field that is known takes the place of the earlier one, which leaves the fields as they are, and
any other rule opens a new place at the end.

`RuleSet.WellFormed` is what follows for a reader of the rule set who knows nothing of its history.
-/

namespace Fieldwise

/-! ### Compiling -/

namespace RuleSource

/-- Compiling a rule yields the one rule that is written so. -/
theorem compile?_eq_ok_iff {s : RuleSource} {rule : Rule} :
    s.compile? = .ok rule ↔ rule.source = s := by
  have hcompiled : ∀ p, Pattern.compile s.pattern = .ok p → p.source = s.pattern := fun p hp =>
    Pattern.source_of_compile hp
  unfold compile?
  split
  · rename_i p hp
    rw [Except.ok.injEq]
    constructor
    · rintro rfl
      show RuleSource.mk s.field p.source s.template = s
      rw [hcompiled p hp]
    · intro h
      obtain ⟨field, pattern, template, hpattern⟩ := rule
      subst h
      have : p = pattern := Except.ok.inj (hp.symm.trans hpattern)
      subst this
      rfl
  · rename_i e he
    constructor
    · intro h
      exact absurd h (by simp)
    · rintro rfl
      exact absurd (rule.compiled.symm.trans he) (by simp)

/-- Compiling a rule fails where compiling its pattern fails, and names the rule's field. -/
theorem compile?_eq_error_iff {s : RuleSource} {e : Error} :
    s.compile? = .error e ↔
      ∃ cause, Pattern.compile s.pattern = .error cause ∧ e = .invalidPattern s.field cause := by
  unfold compile?
  split
  · rename_i p hp
    simp [hp]
  · rename_i cause hcause
    simp [hcause, eq_comm]

/-- What is logged does not change what compiling a rule comes to. -/
theorem compile_yields (s : RuleSource) : s.compile.Yields s.compile? := by
  rw [compile]
  cases h : s.compile? with
  | ok rule =>
    exact (Attempt.Yields.ofExcept _).bind_ok
      ((Attempt.Yields.log _ _ _).bind_ok (Attempt.Yields.pure rule))
  | error e => exact (Attempt.Yields.ofExcept _).bind_error

/-- The rule's pattern compiles. -/
def Compiles (s : RuleSource) : Prop := ∃ rule, s.compile? = .ok rule

/-- Whether rules compile can be computed. -/
theorem forall_compiles_of_all {α : Type} (source : α → RuleSource) {l : List α}
    (h : l.all (fun a => (source a).compile?.isOk) = true) : ∀ a ∈ l, (source a).Compiles := by
  intro a ha
  have hok := List.all_eq_true.mp h a ha
  cases hrule : (source a).compile? with
  | ok rule => exact ⟨rule, hrule⟩
  | error e => exact nomatch hrule ▸ hok

/-- A compiled rule is what its own source compiles to. -/
theorem compile?_source (rule : Rule) : rule.source.compile? = .ok rule :=
  compile?_eq_ok_iff.mpr rfl

/-- Either all rules of a list compile, or there is a first one that does not. What is listed may hold
more than the rule. -/
theorem forall_compiles_or {α : Type} (source : α → RuleSource) (xs : List α) :
    (∀ x ∈ xs, (source x).Compiles) ∨
      ∃ pre x post e, xs = pre ++ x :: post ∧ (∀ y ∈ pre, (source y).Compiles) ∧
        (source x).compile? = .error e := by
  induction xs with
  | nil => exact .inl nofun
  | cons x rest ih =>
    cases hx : (source x).compile? with
    | error e => exact .inr ⟨[], x, rest, e, rfl, nofun, hx⟩
    | ok rule =>
      rcases ih with hrest | ⟨pre, y, post, e, rfl, hpre, he⟩
      · exact .inl (List.forall_mem_cons.mpr ⟨⟨rule, hx⟩, hrest⟩)
      · exact .inr ⟨x :: pre, y, post, e, rfl, List.forall_mem_cons.mpr ⟨⟨rule, hx⟩, hpre⟩, he⟩

/-! ### Which rules are left -/

/-- The latest rule for a field. -/
def latest? (sources : List RuleSource) (field : FieldId) : Option RuleSource :=
  (sources.filter fun s => s.field = field).getLast?

/-- The rules that are left of some that are registered one after another: for each field, in the order
in which the fields first come up, the latest. -/
def settle (sources : List RuleSource) : List RuleSource :=
  (sources.map RuleSource.field).eraseDups.filterMap (latest? sources)

theorem latest?_append_singleton (sources : List RuleSource) (x : RuleSource) (field : FieldId) :
    latest? (sources ++ [x]) field = if x.field = field then some x else latest? sources field := by
  unfold latest?
  rw [List.filter_append]
  by_cases h : x.field = field
  · rw [if_pos h, List.filter_cons_of_pos (by simpa using h)]
    simp
  · rw [if_neg h, List.filter_cons_of_neg (by simpa using h), List.filter_nil, List.append_nil]

/-- The latest rule for a field is one of the rules, and for that field. -/
theorem mem_of_latest? {sources : List RuleSource} {field : FieldId} {s : RuleSource}
    (h : latest? sources field = some s) : s ∈ sources ∧ s.field = field := by
  simpa using List.mem_filter.mp (List.mem_of_getLast? h)

/-- A field that comes up has a latest rule. -/
theorem exists_latest? {sources : List RuleSource} {field : FieldId}
    (h : field ∈ sources.map RuleSource.field) : ∃ s, latest? sources field = some s := by
  obtain ⟨s, hs, rfl⟩ := List.mem_map.mp h
  have hne : (sources.filter fun t => t.field = s.field) ≠ [] := by
    intro he
    have : s ∈ sources.filter fun t => t.field = s.field := by simp [hs]
    rw [he] at this
    exact absurd this (by simp)
  exact ⟨_, List.getLast?_eq_some_getLast hne⟩

/-- The rules that are left are among those that were registered. -/
theorem mem_of_mem_settle {sources : List RuleSource} {s : RuleSource} (h : s ∈ settle sources) :
    s ∈ sources := by
  obtain ⟨field, -, hs⟩ := List.mem_filterMap.mp h
  exact (mem_of_latest? hs).1

/-- One more rule brings up at most its own field. -/
theorem eraseDups_map_field_append_singleton (sources : List RuleSource) (x : RuleSource) :
    ((sources ++ [x]).map RuleSource.field).eraseDups =
      if x.field ∈ sources.map RuleSource.field then (sources.map RuleSource.field).eraseDups
      else (sources.map RuleSource.field).eraseDups ++ [x.field] := by
  rw [List.map_append, List.eraseDups_append, List.map_cons, List.map_nil, List.cons_removeAll]
  by_cases h : x.field ∈ sources.map RuleSource.field
  · rw [if_pos h, if_neg (by simpa using h)]
    simp [List.removeAll]
  · rw [if_neg h, if_pos (by simpa using h)]
    simp [List.removeAll, List.eraseDups_cons]

/-- A rule for a field that has come up before takes the place of the one that was left for it. -/
theorem settle_append_of_mem {sources : List RuleSource} {x : RuleSource}
    (h : x.field ∈ sources.map RuleSource.field) :
    settle (sources ++ [x]) = (settle sources).map fun s => if s.field = x.field then x else s := by
  rw [settle, settle, eraseDups_map_field_append_singleton, if_pos h, List.map_filterMap]
  refine List.filterMap_congr fun field hfield => ?_
  obtain ⟨s, hs⟩ := exists_latest? (List.mem_eraseDups.mp hfield)
  rw [latest?_append_singleton, hs, Option.map_some, (mem_of_latest? hs).2]
  by_cases hx : x.field = field
  · rw [if_pos hx, if_pos hx.symm]
  · rw [if_neg hx, if_neg (Ne.symm hx)]

example : settle [⟨⟨"a"⟩, "1", "x"⟩, ⟨⟨"b"⟩, "2", "y"⟩, ⟨⟨"a"⟩, "3", "z"⟩] =
    [⟨⟨"a"⟩, "3", "z"⟩, ⟨⟨"b"⟩, "2", "y"⟩] := by decide

/-- A rule for a field that has not come up before is left at the end. -/
theorem settle_append_of_not_mem {sources : List RuleSource} {x : RuleSource}
    (h : x.field ∉ sources.map RuleSource.field) :
    settle (sources ++ [x]) = settle sources ++ [x] := by
  rw [settle, settle, eraseDups_map_field_append_singleton, if_neg h, List.filterMap_append]
  congr 1
  · -- the fields that were there keep the rules that they had
    refine List.filterMap_congr fun field hfield => ?_
    have hne : x.field ≠ field := by
      rintro rfl
      exact h (List.mem_eraseDups.mp hfield)
    rw [latest?_append_singleton, if_neg hne]
  · simp [latest?_append_singleton]

/-- The fields of the rules that are left are those that came up, each once. -/
theorem map_field_settle (sources : List RuleSource) :
    (settle sources).map RuleSource.field = (sources.map RuleSource.field).eraseDups := by
  rw [settle, List.map_filterMap]
  calc (sources.map RuleSource.field).eraseDups.filterMap
        (fun field => (latest? sources field).map RuleSource.field)
      = (sources.map RuleSource.field).eraseDups.filterMap some := by
        refine List.filterMap_congr fun field hfield => ?_
        obtain ⟨s, hs⟩ := exists_latest? (List.mem_eraseDups.mp hfield)
        rw [hs, Option.map_some, (mem_of_latest? hs).2]
    _ = (sources.map RuleSource.field).eraseDups := List.filterMap_some

/-- Of rules for fields that are all different, everything is left. -/
theorem settle_of_nodup {sources : List RuleSource} (h : (sources.map RuleSource.field).Nodup) :
    settle sources = sources := by
  induction sources using List.reverseRecOn with
  | nil => rfl
  | append_singleton rest x ih =>
    rw [List.map_append, List.map_singleton, List.nodup_append] at h
    obtain ⟨hrest, -, hdisjoint⟩ := h
    have hx : x.field ∉ rest.map RuleSource.field := by
      intro hmem
      exact hdisjoint x.field hmem x.field (List.mem_singleton_self _) rfl
    rw [settle_append_of_not_mem hx, ih hrest]

end RuleSource

/-- Two rules that are written alike are the same. -/
theorem Rule.eq_of_source_eq {rule rule' : Rule} (h : rule.source = rule'.source) : rule = rule' :=
  Except.ok.inj ((RuleSource.compile?_eq_ok_iff.mpr h).symm.trans (RuleSource.compile?_source rule'))

/-! ### Rule sets and what has been registered -/

namespace RuleSet

/-- The rule set holds what is left of some rules that have been registered, and its index is the
inverse of the order of its fields. -/
structure Holds (s : RuleSet) (sources : List RuleSource) : Prop where
  sources_eq : s.rules.map Rule.source = RuleSource.settle sources
  index_iff : ∀ (field : FieldId) (i : Nat), s.index[field]? = some i ↔ s.fields[i]? = some field

variable {s : RuleSet} {sources : List RuleSource}

theorem holds_empty : empty.Holds [] :=
  ⟨rfl, fun field i => by simp [empty, fields]⟩

/-- The fields of the rules are the fields of their sources. -/
theorem map_field_map_source (s : RuleSet) :
    (s.rules.map Rule.source).map RuleSource.field = s.fields := by
  rw [fields, List.map_map]
  rfl

/-- The fields of the rules are those that have been registered. -/
theorem Holds.mem_fields_iff (h : s.Holds sources) {field : FieldId} :
    field ∈ s.fields ↔ field ∈ sources.map RuleSource.field := by
  rw [← map_field_map_source, h.sources_eq, RuleSource.map_field_settle, List.mem_eraseDups]

/-- No field has two rules, since the index has one place for it. -/
theorem Holds.nodup_fields (h : s.Holds sources) : s.fields.Nodup := by
  rw [List.nodup_iff_getElem?_ne_getElem?]
  intro i j hij hj heq
  have hi : s.fields[i]? = some s.fields[j] := by rw [heq, List.getElem?_eq_getElem hj]
  have hindex := (h.index_iff _ i).mpr hi
  rw [(h.index_iff _ j).mpr (List.getElem?_eq_getElem hj), Option.some.injEq] at hindex
  omega

/-- What is put at the end of a list, and is new there, stands there only. -/
theorem getElem?_append_singleton_self {α : Type} {l : List α} {a : α} (h : a ∉ l) {i : Nat} :
    (l ++ [a])[i]? = some a ↔ l.length = i := by
  constructor
  · intro hi
    rw [List.getElem?_append] at hi
    split at hi
    · exact absurd (List.mem_of_getElem? hi) h
    · rw [List.getElem?_singleton] at hi
      split at hi
      · omega
      · cases hi
  · rintro rfl
    exact List.getElem?_concat_length

/-- What else stands in the list stands where it stood before. -/
theorem getElem?_append_singleton_of_ne {α : Type} {l : List α} {a b : α} (h : a ≠ b) {i : Nat} :
    (l ++ [a])[i]? = some b ↔ l[i]? = some b := by
  rcases Nat.lt_or_ge i l.length with hi | hi
  · rw [List.getElem?_append_left hi]
  · rw [List.getElem?_append_right hi, List.getElem?_eq_none hi, List.getElem?_singleton]
    split
    · rw [Option.some.injEq]
      exact iff_of_false h nofun
    · rfl

/-- In a list whose members differ in something, to set a member is to change the one that has it. -/
theorem set_eq_map_of_nodup {α β : Type} [DecidableEq β] {f : α → β} {l : List α}
    (hl : (l.map f).Nodup) {i : Nat} {x : α} (hi : (l.map f)[i]? = some (f x)) :
    l.set i x = l.map fun y => if f y = f x then x else y := by
  have hlt : i < (l.map f).length := (List.getElem?_eq_some_iff.mp hi).1
  refine List.ext_getElem? fun j => ?_
  rw [List.getElem?_set, List.getElem?_map]
  by_cases hij : i = j
  · subst hij
    rw [List.getElem?_map] at hi
    obtain ⟨y, hy, hfy⟩ := Option.map_eq_some_iff.mp hi
    rw [List.length_map] at hlt
    rw [if_pos rfl, if_pos hlt, hy, Option.map_some, if_pos hfy]
  · rw [if_neg hij]
    cases hj : l[j]? with
    | none => rfl
    | some y =>
      have hne : f y ≠ f x := by
        intro he
        refine hij ((List.getElem?_inj hlt hl).mp ?_)
        rw [hi, List.getElem?_map, hj, Option.map_some, he]
      rw [Option.map_some, if_neg hne]

/-- A rule that is set at the place of its field is registered. -/
theorem Holds.set (h : s.Holds sources) {rule : Rule} {position : Nat}
    (hposition : s.index[rule.field]? = some position) :
    Holds { s with rules := s.rules.set position rule } (sources ++ [rule.source]) := by
  have hfield : s.fields[position]? = some rule.field := (h.index_iff _ _).mp hposition
  constructor
  · show (s.rules.set position rule).map Rule.source = _
    have hmem : rule.source.field ∈ sources.map RuleSource.field :=
      h.mem_fields_iff.mp (List.mem_of_getElem? hfield)
    rw [RuleSource.settle_append_of_mem hmem, ← h.sources_eq, List.map_set]
    apply set_eq_map_of_nodup
    · rw [map_field_map_source]
      exact h.nodup_fields
    · rw [map_field_map_source]
      exact hfield
  · -- the fields stay as they are, and with them the index
    have hfields : (s.rules.set position rule).map Rule.field = s.fields := by
      obtain ⟨hlt, hget⟩ := List.getElem?_eq_some_iff.mp hfield
      rw [List.map_set, ← hget]
      exact List.set_getElem_self hlt
    intro field i
    rw [h.index_iff field i, ← hfields]
    rfl

/-- A rule for a field that the index does not know is registered at the end. -/
theorem Holds.append (h : s.Holds sources) {rule : Rule} (hnone : s.index[rule.field]? = none) :
    Holds ⟨s.rules ++ [rule], s.index.insert rule.field s.rules.length⟩
      (sources ++ [rule.source]) := by
  have hnew : rule.field ∉ s.fields := by
    intro hmem
    obtain ⟨i, hi⟩ := List.mem_iff_getElem?.mp hmem
    rw [(h.index_iff _ i).mpr hi] at hnone
    exact absurd hnone (by simp)
  constructor
  · show (s.rules ++ [rule]).map Rule.source = _
    have hmem : rule.source.field ∉ sources.map RuleSource.field := fun hm =>
      hnew (h.mem_fields_iff.mpr hm)
    rw [RuleSource.settle_append_of_not_mem hmem, ← h.sources_eq, List.map_append]
    rfl
  · intro field i
    show (s.index.insert rule.field s.rules.length)[field]? = some i ↔
      ((s.rules ++ [rule]).map Rule.field)[i]? = some field
    rw [List.map_append, List.map_cons, List.map_nil, Std.HashMap.getElem?_insert]
    change _ ↔ (s.fields ++ [rule.field])[i]? = some field
    have hlen : s.fields.length = s.rules.length := List.length_map _
    rw [← hlen]
    -- the new field has the new place and no other, and any other field keeps its place
    by_cases hf : rule.field = field
    · subst hf
      rw [if_pos (by simp), Option.some.injEq]
      exact (getElem?_append_singleton_self hnew).symm
    · rw [if_neg (by simpa using hf), h.index_iff]
      exact (getElem?_append_singleton_of_ne hf).symm

/-- Adding a rule registers it. -/
theorem Holds.insert (h : s.Holds sources) (rule : Rule) :
    (s.insert rule).Holds (sources ++ [rule.source]) := by
  unfold RuleSet.insert
  split
  · rename_i position hposition
    exact h.set hposition
  · rename_i hnone
    exact h.append hnone

/-! ### What a reader can rely on -/

/-- A rule set that is as it should be: there is a rule, no field has two of them, and the rule for a
field is found exactly where the field stands among the rules. The index never leads past the end. -/
structure WellFormed (s : RuleSet) : Prop where
  nonempty : s.rules ≠ []
  nodup_fields : s.fields.Nodup
  lt_of_index : ∀ (field : FieldId) (i : Nat), s.index[field]? = some i → i < s.rules.length
  find?_iff : ∀ (field : FieldId) (rule : Rule),
    s.find? field = some rule ↔ ∃ i : Nat, s.rules[i]? = some rule ∧ s.fields[i]? = some field
  find?_eq_none_iff : ∀ field : FieldId, s.find? field = none ↔ field ∉ s.fields

/-- The rule that is found for a field stands where the field stands. -/
theorem Holds.find?_iff (h : s.Holds sources) (field : FieldId) (rule : Rule) :
    s.find? field = some rule ↔ ∃ i : Nat, s.rules[i]? = some rule ∧ s.fields[i]? = some field := by
  rw [find?, Option.bind_eq_some_iff]
  constructor
  · rintro ⟨i, hi, hrule⟩
    exact ⟨i, hrule, (h.index_iff field i).mp hi⟩
  · rintro ⟨i, hrule, hi⟩
    exact ⟨i, (h.index_iff field i).mpr hi, hrule⟩

/-- Where the fields are known there are rules: the two lists have the same places. -/
theorem getElem?_fields_eq_some_iff {field : FieldId} {i : Nat} :
    s.fields[i]? = some field ↔ ∃ rule, s.rules[i]? = some rule ∧ rule.field = field := by
  rw [fields, List.getElem?_map, Option.map_eq_some_iff]

theorem Holds.lt_of_index (h : s.Holds sources) {field : FieldId} {i : Nat}
    (hi : s.index[field]? = some i) : i < s.rules.length := by
  obtain ⟨rule, hrule, -⟩ := getElem?_fields_eq_some_iff.mp ((h.index_iff field i).mp hi)
  exact (List.getElem?_eq_some_iff.mp hrule).1

/-- No rule is found exactly for the fields that no rule is for. -/
theorem Holds.find?_eq_none_iff (h : s.Holds sources) (field : FieldId) :
    s.find? field = none ↔ field ∉ s.fields := by
  rw [← not_iff_not, not_not, ← ne_eq, Option.ne_none_iff_exists']
  constructor
  · rintro ⟨rule, hrule⟩
    obtain ⟨i, -, hi⟩ := (h.find?_iff field rule).mp hrule
    exact List.mem_of_getElem? hi
  · intro hmem
    obtain ⟨i, hi⟩ := List.mem_iff_getElem?.mp hmem
    obtain ⟨rule, hrule, -⟩ := getElem?_fields_eq_some_iff.mp hi
    exact ⟨rule, (h.find?_iff field rule).mpr ⟨i, hrule, hi⟩⟩

/-- A rule set with anything registered is as it should be. -/
theorem Holds.wellFormed (h : s.Holds sources) (hne : sources ≠ []) : s.WellFormed where
  nonempty := by
    obtain ⟨x, hx⟩ := List.exists_mem_of_ne_nil sources hne
    have hmem : x.field ∈ s.fields := h.mem_fields_iff.mpr (List.mem_map_of_mem hx)
    intro hnil
    rw [fields, hnil] at hmem
    exact absurd hmem (by simp)
  nodup_fields := h.nodup_fields
  lt_of_index := fun _ _ hi => h.lt_of_index hi
  find?_iff := h.find?_iff
  find?_eq_none_iff := h.find?_eq_none_iff

end RuleSet

end Fieldwise
