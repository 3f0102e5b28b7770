import Fieldwise.Proofs.Pattern.GroupName
import Fieldwise.Proofs.Template.Number
import Fieldwise.Proofs.Template.Replacement
import Mathlib.Data.List.Forall2
import Mathlib.Data.List.TakeWhile

/-!
# The grammar of templates

A template is written as one token after another: `Spells` says how a token is written, and `Reads` puts
tokens together from left to right. At a place where no token can be read the template is `Stuck`, for a
reason that the place itself gives (`stuck_iff`).

Taking a template apart reads these tokens and no others (`tokens_eq_ok_iff`), and the fault that it
finds is that of the first place where it is stuck (`tokens_eq_error_iff`). `Stands` says what text a token
stands for at a match, and what a template makes of the match are the texts of its tokens, one after the
other (`expand_follows_grammar`). A template without references stands for one text, whatever the match
(`Denotes.expand`).

Since a number goes on as far as it can, a spelling is always taken together with the text behind it.
-/

namespace Fieldwise.Template

/-! ### How tokens are written -/

/-- A text that can stand between the braces of a reference. -/
structure IsReferenceName (name : List Char) : Prop where
  ne_nil : name ≠ []
  not_digit : ∀ c, name.head? = some c → c.isDigit = false
  no_brace : '\x7d' ∉ name

/-- How a reference to a group is written behind the dollar sign, with `rest` behind it: by a name that
the pattern gives to the group, or by the longest number that a group can have. -/
inductive Refers (groups : Groups) : (spelling rest : List Char) → (index : Nat) → Prop where
  | named {n : Pattern.GroupName} {rest : List Char} {index : Nat} (hname : IsReferenceName n.chars)
    (hdefined : (n, index) ∈ groups.names.entries) :
    Refers groups ('\x7b' :: (n.chars ++ ['\x7d'])) rest index
  | numbered {first : Char} {run rest : List Char} (hfirst : first.isDigit = true)
    (hle : digitValue first ≤ groups.count)
    (hrun : LongestRun groups.count (digitValue first) run rest) :
    Refers groups (first :: run) rest (Nat.ofDigitChars 10 run (digitValue first))

/-- How a token is written, with `rest` behind it: as a character without a meaning of its own, as a
backslash and any character, or as a dollar sign and a reference. -/
inductive Spells (groups : Groups) : (spelling rest : List Char) → Token → Prop where
  | plain {c : Char} {rest : List Char} (hslash : c ≠ '\\') (hdollar : c ≠ '$') :
    Spells groups [c] rest (.literal c)
  | escaped (c : Char) (rest : List Char) : Spells groups ['\\', c] rest (.literal c)
  | reference {spelling rest : List Char} {index : Nat} (h : Refers groups spelling rest index) :
    Spells groups ('$' :: spelling) rest (.group index)

/-- A text begins with the tokens, one after the other from left to right, and `rest` is left of it. -/
inductive Reads (groups : Groups) : (text : List Char) → List Token → (rest : List Char) → Prop where
  | nil (rest : List Char) : Reads groups rest [] rest
  | cons {spelling text rest : List Char} {token : Token} {tokens : List Token}
    (h : Spells groups spelling text token) (h' : Reads groups text tokens rest) :
    Reads groups (spelling ++ text) (token :: tokens) rest

/-! ### Where no token is written -/

/-- Why no reference is written at the beginning of a text. -/
inductive Misrefers (groups : Groups) : (text : List Char) → Error → Prop where
  | missingIndex {text : List Char} (h : ∀ c, text.head? = some c → c ≠ '\x7b' ∧ c.isDigit = false) :
    Misrefers groups text (.invalidReference .missingIndex)
  | unclosedName {text : List Char} (h : '\x7d' ∉ text) :
    Misrefers groups ('\x7b' :: text) (.invalidReference .unclosedName)
  | emptyName (rest : List Char) :
    Misrefers groups ('\x7b' :: '\x7d' :: rest) (.invalidReference .emptyName)
  | digitName {c : Char} {name : List Char} (hc : c.isDigit = true) (hname : '\x7d' ∉ c :: name)
    (rest : List Char) :
    Misrefers groups ('\x7b' :: (c :: name ++ '\x7d' :: rest))
      (.invalidReference (.digitName (String.ofList (c :: name))))
  | noSuchNamedGroup {name : List Char} (hname : IsReferenceName name)
    (hundefined : ∀ n index, (n, index) ∈ groups.names.entries → n.chars ≠ name) (rest : List Char) :
    Misrefers groups ('\x7b' :: (name ++ '\x7d' :: rest)) (.noSuchNamedGroup (String.ofList name))
  | noSuchGroup {first : Char} (hfirst : first.isDigit = true)
    (hlt : groups.count < digitValue first) (rest : List Char) :
    Misrefers groups (first :: rest) (.noSuchGroup (digitValue first))

/-- Why no token is written at the beginning of a text that goes on. -/
inductive Stuck (groups : Groups) : (text : List Char) → Error → Prop where
  | danglingEscape : Stuck groups ['\\'] .danglingEscape
  | reference {text : List Char} {e : Error} (h : Misrefers groups text e) :
    Stuck groups ('$' :: text) e

variable {groups : Groups} {name spelling spelling' text rest rest' : List Char} {index : Nat}
  {token token' : Token} {ts ts' : List Token} {e : Error}

theorem Spells.ne_nil (h : Spells groups spelling rest token) : spelling ≠ [] := by
  cases h <;> exact List.cons_ne_nil _ _

/-! ### References -/

theorem bne_brace_of_mem (h : '\x7d' ∉ text) {c : Char} (hc : c ∈ text) : (c != '\x7d') = true := by
  rw [bne_iff_ne]
  rintro rfl
  exact h hc

/-- A name goes on up to the first closing brace. -/
theorem takeWhile_name (hname : '\x7d' ∉ name) (rest : List Char) :
    (name ++ '\x7d' :: rest).takeWhile (· != '\x7d') = name := by
  rw [List.takeWhile_append_of_pos fun c => bne_brace_of_mem hname,
    List.takeWhile_cons_of_neg (by simp), List.append_nil]

theorem dropWhile_name (hname : '\x7d' ∉ name) (rest : List Char) :
    (name ++ '\x7d' :: rest).dropWhile (· != '\x7d') = '\x7d' :: rest := by
  rw [List.dropWhile_append_of_pos fun c => bne_brace_of_mem hname,
    List.dropWhile_cons_of_neg (by simp)]

/-- A name is read up to the closing brace, and the brace with it. -/
theorem readName_append (h : IsReferenceName name) (rest : List Char) :
    readName (name ++ '\x7d' :: rest) = .ok (name, rest) := by
  obtain ⟨c, name, rfl⟩ := List.exists_cons_of_ne_nil h.ne_nil
  simp only [readName, takeWhile_name h.no_brace, dropWhile_name h.no_brace, h.not_digit c rfl,
    Bool.false_eq_true, if_false]

/-- A name without a closing brace is at fault. -/
theorem readName_of_not_mem (h : '\x7d' ∉ text) :
    readName text = .error (.invalidReference .unclosedName) := by
  have hdrop : text.dropWhile (· != '\x7d') = [] :=
    List.dropWhile_eq_nil_iff.mpr fun c => bne_brace_of_mem h
  simp only [readName, hdrop]

/-- No digit is an opening brace. -/
theorem ne_brace_of_isDigit {c : Char} (h : c.isDigit = true) : c ≠ '\x7b' := by
  rintro rfl
  exact absurd h (by decide)

/-- A reference is read as it is written. -/
theorem readReference_of_refers (h : Refers groups spelling rest index) :
    readReference groups (spelling ++ rest) = .ok (index, rest) := by
  cases h with
  | @named n _ _ hname hdefined =>
    have htext : '\x7b' :: (n.chars ++ ['\x7d']) ++ rest = '\x7b' :: (n.chars ++ '\x7d' :: rest) := by simp
    rw [htext, readReference, if_pos rfl]
    simp only [readName_append hname, Pattern.GroupNames.index?_eq_some_iff.mpr hdefined]
  | numbered hfirst hle hrun =>
    rw [List.cons_append, readReference, if_neg (ne_brace_of_isDigit hfirst), if_pos hfirst, readNumber,
      if_pos hle, extendNumber_of_longestRun hle hrun]

/-- Where no reference is written, none is read, for the reason why none is written. -/
theorem readReference_of_misrefers (h : Misrefers groups text e) :
    readReference groups text = .error e := by
  cases h with
  | missingIndex h =>
    cases text with
    | nil => rfl
    | cons c text =>
      obtain ⟨hbrace, hdigit⟩ := h c rfl
      rw [readReference, if_neg hbrace, if_neg (by simp [hdigit])]
  | unclosedName h =>
    rw [readReference, if_pos rfl]
    simp only [readName_of_not_mem h]
  | emptyName rest =>
    rw [readReference, if_pos rfl]
    rfl
  | digitName hc hname rest =>
    rw [readReference, if_pos rfl]
    simp only [readName, takeWhile_name hname, dropWhile_name hname, hc, if_true]
  | noSuchNamedGroup hname hundefined rest =>
    rw [readReference, if_pos rfl]
    simp only [readName_append hname, Pattern.GroupNames.index?_eq_none_iff.mpr hundefined]
  | noSuchGroup hfirst hlt rest =>
    rw [readReference, if_neg (ne_brace_of_isDigit hfirst), if_pos hfirst, readNumber,
      if_neg (by omega)]

/-- At every place a reference is written, or there is a reason why none is. -/
theorem refers_or_misrefers (groups : Groups) (text : List Char) :
    (∃ spelling rest index, text = spelling ++ rest ∧ Refers groups spelling rest index) ∨
      ∃ e, Misrefers groups text e := by
  cases text with
  | nil => exact .inr ⟨_, .missingIndex nofun⟩
  | cons c text =>
    by_cases hbrace : c = '\x7b'
    · subst hbrace
      by_cases hclosed : '\x7d' ∈ text
      · obtain ⟨name, rest, rfl, hname⟩ := List.eq_append_cons_of_mem hclosed
        cases name with
        | nil => exact .inr ⟨_, .emptyName rest⟩
        | cons first name =>
          cases hfirst : first.isDigit with
          | true => exact .inr ⟨_, .digitName hfirst hname rest⟩
          | false =>
            have hok : IsReferenceName (first :: name) :=
              ⟨List.cons_ne_nil _ _, by rintro x ⟨⟩; exact hfirst, hname⟩
            cases hindex : groups.names.index? (first :: name) with
            | none =>
              exact .inr ⟨_, .noSuchNamedGroup hok (Pattern.GroupNames.index?_eq_none_iff.mp hindex) rest⟩
            | some index =>
              obtain ⟨n, hdefined, hn⟩ := Pattern.GroupNames.index?_eq_some_iff_exists.mp hindex
              rw [← hn] at hok ⊢
              exact .inl ⟨_, rest, index, by simp, .named hok hdefined⟩
      · exact .inr ⟨_, .unclosedName hclosed⟩
    · cases hdigit : c.isDigit with
      | true =>
        by_cases hle : digitValue c ≤ groups.count
        · obtain ⟨run, rest, rfl, hrun, -⟩ := longestRun_extendNumber hle text
          exact .inl ⟨c :: run, rest, _, rfl, .numbered hdigit hle hrun⟩
        · exact .inr ⟨_, .noSuchGroup hdigit (by omega) text⟩
      | false =>
        refine .inr ⟨_, .missingIndex ?_⟩
        rintro x ⟨⟩
        exact ⟨hbrace, hdigit⟩

/-- A place where a reference is written has only one. -/
theorem Refers.unique (h : Refers groups spelling rest index) {index' : Nat}
    (h' : Refers groups spelling' rest' index') (heq : spelling ++ rest = spelling' ++ rest') :
    spelling = spelling' ∧ index = index' := by
  have hread := readReference_of_refers h
  rw [heq, readReference_of_refers h', Except.ok.injEq, Prod.mk.injEq] at hread
  obtain ⟨rfl, rfl⟩ := hread
  exact ⟨List.append_cancel_right heq, rfl⟩

/-! ### Tokens -/

/-- A token is taken off as it is written. -/
theorem tokens_of_spells (h : Spells groups spelling rest token) :
    tokens groups (spelling ++ rest) = (tokens groups rest).map (token :: ·) := by
  cases h with
  | plain hslash hdollar => exact tokens_plain groups hslash hdollar
  | escaped c => exact tokens_escaped groups c rest
  | reference h => exact tokens_dollar_of_ok groups (readReference_of_refers h)

/-- Where a template is stuck it is at fault. -/
theorem tokens_of_stuck (h : Stuck groups text e) : tokens groups text = .error e := by
  cases h with
  | danglingEscape => exact tokens_backslash groups
  | reference h => exact tokens_dollar_of_error groups (readReference_of_misrefers h)

/-- At every place but the end a token is written, or the template is stuck. -/
theorem spells_or_stuck (groups : Groups) (htext : text ≠ []) :
    (∃ spelling rest token, text = spelling ++ rest ∧ Spells groups spelling rest token) ∨
      ∃ e, Stuck groups text e := by
  obtain ⟨c, text, rfl⟩ := List.exists_cons_of_ne_nil htext
  by_cases hslash : c = '\\'
  · subst hslash
    cases text with
    | nil => exact .inr ⟨_, .danglingEscape⟩
    | cons c text => exact .inl ⟨_, text, _, rfl, .escaped c text⟩
  · by_cases hdollar : c = '$'
    · subst hdollar
      rcases refers_or_misrefers groups text with ⟨spelling, rest, index, rfl, h⟩ | ⟨e, h⟩
      · exact .inl ⟨'$' :: spelling, rest, _, rfl, .reference h⟩
      · exact .inr ⟨e, .reference h⟩
    · exact .inl ⟨[c], text, _, rfl, .plain hslash hdollar⟩

/-- A place where a token is written has only one. -/
theorem Spells.unique (h : Spells groups spelling rest token)
    (h' : Spells groups spelling' rest' token') (heq : spelling ++ rest = spelling' ++ rest') :
    spelling = spelling' ∧ token = token' := by
  cases h with
  | plain hslash hdollar =>
    cases h' with
    | plain => cases heq; exact ⟨rfl, rfl⟩
    | escaped => cases heq; exact absurd rfl hslash
    | reference => cases heq; exact absurd rfl hdollar
  | escaped c =>
    cases h' with
    | plain hslash => cases heq; exact absurd rfl hslash
    | escaped => cases heq; exact ⟨rfl, rfl⟩
    | reference => cases heq
  | reference h =>
    cases h' with
    | plain _ hdollar => cases heq; exact absurd rfl hdollar
    | escaped => cases heq
    | reference h' =>
      obtain ⟨rfl, rfl⟩ := h.unique h' (List.cons.inj heq).2
      exact ⟨rfl, rfl⟩

/-- No token is written where a template is stuck. -/
theorem Stuck.not_spells (h : Stuck groups (spelling ++ rest) e) :
    ¬Spells groups spelling rest token := by
  intro hspells
  cases hspells with
  | plain hslash hdollar =>
    cases h with
    | danglingEscape => exact hslash rfl
    | reference => exact hdollar rfl
  | escaped => cases h
  | reference hrefers =>
    cases h with
    | reference h => cases (readReference_of_misrefers h).symm.trans (readReference_of_refers hrefers)

/-- A template is stuck just where something is left of it that no token begins. -/
theorem stuck_iff : (∃ e, Stuck groups text e) ↔
    text ≠ [] ∧ ∀ spelling rest token, text = spelling ++ rest → ¬Spells groups spelling rest token := by
  constructor
  · rintro ⟨e, h⟩
    refine ⟨?_, ?_⟩
    · rintro rfl
      cases h
    · rintro spelling rest token rfl
      exact h.not_spells
  · rintro ⟨htext, hnone⟩
    rcases spells_or_stuck groups htext with ⟨spelling, rest, token, heq, h⟩ | h
    · exact absurd h (hnone spelling rest token heq)
    · exact h

/-! ### Templates -/

/-- The tokens that a template begins with are taken off one after the other. -/
theorem tokens_of_reads (h : Reads groups text ts rest) :
    tokens groups text = (tokens groups rest).map (ts ++ ·) := by
  induction h with
  | nil rest => cases tokens groups rest <;> rfl
  | @cons spelling text rest token ts h _ ih =>
    rw [tokens_of_spells h, ih]
    cases tokens groups rest <;> rfl

/-- From every place on, tokens can be read up to the end or up to a place where the template is
stuck. -/
theorem exists_reads (groups : Groups) (text : List Char) :
    ∃ ts rest, Reads groups text ts rest ∧ (rest = [] ∨ ∃ e, Stuck groups rest e) := by
  induction hlen : text.length using Nat.strongRecOn generalizing text with
  | ind n ih =>
    by_cases htext : text = []
    · exact ⟨[], text, .nil text, .inl htext⟩
    · rcases spells_or_stuck groups htext with ⟨spelling, after, token, rfl, h⟩ | h
      · have hshort : after.length < n := by
          have := List.length_pos_iff.mpr h.ne_nil
          rw [← hlen, List.length_append]
          omega
        obtain ⟨ts, rest, hreads, hrest⟩ := ih after.length hshort after rfl
        exact ⟨token :: ts, rest, .cons h hreads, hrest⟩
      · exact ⟨[], text, .nil text, .inr h⟩

/-- A template is taken apart into the tokens that it is written as. -/
theorem tokens_eq_ok_iff : tokens groups text = .ok ts ↔ Reads groups text ts [] := by
  constructor
  · intro htokens
    obtain ⟨ts', rest, hreads, hrest⟩ := exists_reads groups text
    rw [tokens_of_reads hreads] at htokens
    rcases hrest with rfl | ⟨e, hstuck⟩
    · rw [tokens_nil, Except.map, Except.ok.injEq, List.append_nil] at htokens
      rwa [← htokens]
    · rw [tokens_of_stuck hstuck] at htokens
      cases htokens
  · intro hreads
    rw [tokens_of_reads hreads, tokens_nil, Except.map, List.append_nil]

/-- The fault of a template is that of the first place where it is stuck. -/
theorem tokens_eq_error_iff :
    tokens groups text = .error e ↔ ∃ ts rest, Reads groups text ts rest ∧ Stuck groups rest e := by
  constructor
  · intro htokens
    obtain ⟨ts, rest, hreads, hrest⟩ := exists_reads groups text
    rw [tokens_of_reads hreads] at htokens
    rcases hrest with rfl | ⟨e', hstuck⟩
    · rw [tokens_nil] at htokens
      cases htokens
    · rw [tokens_of_stuck hstuck, Except.map, Except.error.injEq] at htokens
      exact ⟨ts, rest, hreads, htokens ▸ hstuck⟩
  · rintro ⟨ts, rest, hreads, hstuck⟩
    rw [tokens_of_reads hreads, tokens_of_stuck hstuck, Except.map]

/-! ### What tokens stand for -/

/-- The text of a group at a match: the characters from the place where the group begins up to that where
it ends, and none if it took no part in the match. -/
inductive Captures (text : Array Char) (m : Pattern.Match) (index : Nat) : List Char → Prop where
  | taken {start stop : Nat} (h : m.group? index = some (start, stop)) :
    Captures text m index ((text.toList.drop start).take (stop - start))
  | untaken (h : m.group? index = none) : Captures text m index []

/-- The text that a token stands for at a match: the character, or the text of the group. -/
inductive Stands (text : Array Char) (m : Pattern.Match) : Token → List Char → Prop where
  | literal (c : Char) : Stands text m (.literal c) [c]
  | group {index : Nat} {value : List Char} (h : Captures text m index value) :
    Stands text m (.group index) value

variable {text : Array Char} {m : Pattern.Match} {template out value : List Char} {values : List (List Char)}

/-- The text of a group is what a reference to it writes. -/
theorem captures_iff : Captures text m index value ↔ groupText text m index = value := by
  rw [groupText]
  constructor
  · rintro (h | h) <;> simp only [h, slice_eq_take]
  · rintro rfl
    cases h : m.group? index with
    | none => exact .untaken h
    | some bounds =>
      simp only [slice_eq_take]
      exact .taken h

/-- What a token stands for is what it is expanded to. -/
theorem stands_iff : Stands text m token value ↔ token.expand text m = value := by
  cases token with
  | literal c =>
    constructor
    · rintro ⟨⟩
      rfl
    · rintro rfl
      exact .literal c
  | group index =>
    rw [Token.expand, ← captures_iff]
    constructor
    · rintro ⟨⟩
      assumption
    · exact .group

/-- The texts of several tokens are those that they are expanded to. -/
theorem forall₂_stands_iff :
    List.Forall₂ (Stands text m) ts values ↔ ts.map (Token.expand text m) = values := by
  calc List.Forall₂ (Stands text m) ts values
      ↔ List.Forall₂ (fun token value => token.expand text m = value) ts values :=
        ⟨.imp fun _ _ => stands_iff.mp, .imp fun _ _ => stands_iff.mpr⟩
    _ ↔ List.Forall₂ (· = ·) (ts.map (Token.expand text m)) values := List.forall₂_map_left_iff.symm
    _ ↔ ts.map (Token.expand text m) = values := by rw [List.forall₂_eq_eq_eq]

/-! ### Expanding -/

/-- What a template makes of a match are the texts of its tokens. -/
theorem expand_eq_ok_iff : expand groups template text m = .ok out ↔
    ∃ ts values, Reads groups template ts [] ∧ List.Forall₂ (Stands text m) ts values ∧
      out = values.flatten := by
  rw [expand, map_eq_ok_iff]
  refine exists_congr fun ts => ?_
  simp only [← tokens_eq_ok_iff, forall₂_stands_iff, List.flatMap]
  constructor
  · rintro ⟨hts, rfl⟩
    exact ⟨_, hts, rfl, rfl⟩
  · rintro ⟨values, hts, rfl, rfl⟩
    exact ⟨hts, rfl⟩

/-- A template cannot be expanded, whatever the match, if it is stuck somewhere. -/
theorem expand_eq_error_iff_stuck : expand groups template text m = .error e ↔
    ∃ ts rest, Reads groups template ts rest ∧ Stuck groups rest e := by
  rw [← tokens_eq_error_iff, expand, map_eq_error_iff]

/-- **The grammar of templates.** A template can be expanded at a match just if it is written as tokens,
one after the other. What it makes of the match are the texts that these stand for, joined: for a character
itself, and for a reference the characters that its group has matched, or none if the group took no part.
Otherwise its fault is that of the first place where no token can be read. At no place can more than one be
read, so that there is only one way to take a template apart. -/
theorem expand_follows_grammar (p : Pattern) (template : String) (text : Array Char)
    (m : Pattern.Match) :
    let result := expand p.groups template.toList text m
    ((∃ out, result = .ok out) ↔ ∃ ts, Reads p.groups template.toList ts []) ∧
    (∀ out, result = .ok out ↔
      ∃ ts values, Reads p.groups template.toList ts [] ∧ List.Forall₂ (Stands text m) ts values ∧
        out = values.flatten) ∧
    (∀ e, result = .error e ↔
      ∃ ts rest, Reads p.groups template.toList ts rest ∧ Stuck p.groups rest e) ∧
    (∀ rest, (∃ e, Stuck p.groups rest e) ↔ rest ≠ [] ∧
      ∀ spelling after token, rest = spelling ++ after → ¬Spells p.groups spelling after token) ∧
    ∀ spelling rest token spelling' rest' token', Spells p.groups spelling rest token →
      Spells p.groups spelling' rest' token' → spelling ++ rest = spelling' ++ rest' →
        spelling = spelling' ∧ token = token' := by
  intro result
  refine ⟨?_, fun out => expand_eq_ok_iff, fun e => expand_eq_error_iff_stuck, fun rest => stuck_iff,
    fun _ _ _ _ _ _ h h' heq => h.unique h' heq⟩
  constructor
  · rintro ⟨out, hout⟩
    obtain ⟨ts, -, hreads, -⟩ := expand_eq_ok_iff.mp hout
    exact ⟨ts, hreads⟩
  · rintro ⟨ts, hreads⟩
    exact ⟨_, expand_eq_ok_iff.mpr ⟨ts, _, hreads, forall₂_stands_iff.mpr rfl, rfl⟩⟩

/-! ### Templates without references -/

/-- A template of characters and escapes only, and the text that it stands for. -/
inductive Denotes : (template text : List Char) → Prop
  | nil : Denotes [] []
  | plain {c : Char} {template text : List Char} (hslash : c ≠ '\\') (hdollar : c ≠ '$')
    (rest : Denotes template text) : Denotes (c :: template) (c :: text)
  | escaped {template text : List Char} (c : Char) (rest : Denotes template text) :
    Denotes ('\\' :: c :: template) (c :: text)

/-- The tokens of such a template are the characters of the text. -/
theorem Denotes.reads (groups : Groups) (h : Denotes template out) :
    Reads groups template (out.map Token.literal) [] := by
  induction h with
  | nil => exact .nil []
  | plain hslash hdollar _ ih => exact .cons (.plain hslash hdollar) ih
  | escaped c _ ih => exact .cons (.escaped c _) ih

/-- Such a template makes the text of every match. -/
theorem Denotes.expand (groups : Groups) (h : Denotes template out) (text : Array Char) (m : Pattern.Match) :
    expand groups template text m = .ok out := by
  refine expand_eq_ok_iff.mpr ⟨_, out.map ([·]), h.reads groups, ?_, (List.flatMap_singleton' out).symm⟩
  rw [List.forall₂_map_left_iff, List.forall₂_map_right_iff, List.forall₂_same]
  exact fun c _ => .literal c

end Fieldwise.Template
