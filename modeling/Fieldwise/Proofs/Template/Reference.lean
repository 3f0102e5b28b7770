import Fieldwise.Proofs.Pattern.GroupName
import Fieldwise.Proofs.Template.Grammar

/-!
# Reaching every group

Patterns name and count their groups by rules of their own, and templates refer to them by other rules.
The two fit together: the digits of a group's number are a reference to it however many there are
(`reads_number`), and so is its name in braces whatever the pattern calls it (`reads_name`), so that both
stand for the text of the group (`references_reach_groups`).
-/

namespace Fieldwise.Template

variable {groups : Groups} {template : String} {index : Nat}

/-- What a name of a pattern is made of can stand between braces. -/
theorem isReferenceName_chars (n : Pattern.GroupName) : IsReferenceName n.chars := by
  obtain ⟨c, cs, hchars, hc, -⟩ := n.exists_chars_eq_cons
  refine ⟨?_, ?_, n.not_mem_chars (by decide)⟩
  · rw [hchars]
    exact List.cons_ne_nil c cs
  · rw [hchars]
    rintro x ⟨⟩
    exact Pattern.not_isDigit_of_isNameStart hc

/-- The number of a group is read as one reference to it. -/
theorem reads_number (h : index ≤ groups.count) :
    Reads groups ("$" ++ toString index).toList [.group index] [] := by
  obtain ⟨first, run, hdigits, hfirst, hle, hrun, hvalue⟩ := longestRun_toDigits h
  have htext : ("$" ++ toString index).toList = '$' :: first :: run ++ [] := by
    rw [String.toList_append, Nat.toString_eq_repr, Nat.toList_repr, hdigits, List.append_nil]
    rfl
  have hrefers := Refers.numbered hfirst hle hrun
  rw [hvalue] at hrefers
  rw [htext]
  exact .cons (.reference hrefers) (.nil [])

/-- The name of a group is read as one reference to it. -/
theorem reads_name {n : Pattern.GroupName} (h : (n, index) ∈ groups.names.entries) :
    Reads groups ("$\x7b" ++ n.text ++ "\x7d").toList [.group index] [] := by
  have htext : ("$\x7b" ++ n.text ++ "\x7d").toList =
      '$' :: '\x7b' :: (n.chars ++ ['\x7d']) ++ [] := by
    simp [Pattern.GroupName.text]
  have hrefers : Refers groups ('\x7b' :: (n.chars ++ ['\x7d'])) [] index :=
    .named (isReferenceName_chars n) h
  rw [htext]
  exact .cons (.reference hrefers) (.nil [])

/-- A template that is written as tokens passes the check. -/
theorem validate_of_reads {ts : List Token} (h : Reads groups template.toList ts []) :
    validate groups template = .ok () := by
  rw [validate, tokens_eq_ok_iff.mpr h, Except.map]

/-- A template that is one reference stands for the text of the group. -/
theorem expand_of_reads_group (h : Reads groups template.toList [.group index] []) {text : Array Char}
    {m : Pattern.Match} {value : List Char} :
    expand groups template.toList text m = .ok value ↔ Captures text m index value := by
  rw [captures_iff, expand, tokens_eq_ok_iff.mpr h, Except.map, Except.ok.injEq, List.flatMap_singleton,
    Token.expand]

/-- **Every group can be reached, by its number and by its name.** The digits of a group's number pass the
check, and stand in whatever match for the characters that the group has matched, or for none if it took no
part. A name that the pattern gives to a group can be written in braces, and stands for the same. All that
can be a name is given to a group by some pattern. -/
theorem references_reach_groups {source : String} {p : Pattern}
    (h : Pattern.compile source = .ok p) :
    (∀ index ≤ p.groupCount,
      validate p.groups ("$" ++ toString index) = .ok () ∧
      ∀ text m value, expand p.groups ("$" ++ toString index).toList text m = .ok value ↔
        Captures text m index value) ∧
    (∀ n index, (n, index) ∈ p.names.entries →
      IsReferenceName n.chars ∧ index ≤ p.groupCount ∧
      validate p.groups ("$\x7b" ++ n.text ++ "\x7d") = .ok () ∧
      ∀ text m,
        (∀ value, expand p.groups ("$\x7b" ++ n.text ++ "\x7d").toList text m = .ok value ↔
          Captures text m index value) ∧
        expand p.groups ("$\x7b" ++ n.text ++ "\x7d").toList text m =
          expand p.groups ("$" ++ toString index).toList text m) ∧
    ∀ n : Pattern.GroupName, ∃ q, Pattern.compile ("(?P<" ++ n.text ++ ">)") = .ok q ∧
      (n, 1) ∈ q.names.entries := by
  refine ⟨?_, ?_, Pattern.exists_compile_named⟩
  · intro index hindex
    have hreads : Reads p.groups _ _ [] := reads_number hindex
    exact ⟨validate_of_reads hreads, fun text m value => expand_of_reads_group hreads⟩
  · intro n index hmem
    have hindex : index ≤ p.groupCount := Pattern.le_groupCount_of_mem_names h hmem
    have hname : Reads p.groups _ _ [] := reads_name hmem
    have hnumber : Reads p.groups _ _ [] := reads_number hindex
    refine ⟨isReferenceName_chars n, hindex, validate_of_reads hname, fun text m => ?_⟩
    refine ⟨fun value => expand_of_reads_group hname, ?_⟩
    have hvalue : Captures text m index (groupText text m index) := captures_iff.mpr rfl
    rw [(expand_of_reads_group hname).mpr hvalue, (expand_of_reads_group hnumber).mpr hvalue]

/-- One such pattern has eleven groups, and gives names with a dot and with brackets to the last two. The
last has matched one character in one of two matches, and took no part in the other. -/
theorem references_reach_groups_eleven :
    let text := "abcdefghijk".toList.toArray
    let m : Pattern.Match := ⟨0, 11, [(23, 11), (22, 10), (21, 10), (20, 9)]⟩
    let m' : Pattern.Match := ⟨0, 10, [(21, 10), (20, 9)]⟩
    ∃ (p : Pattern) (n : Pattern.GroupName),
      Pattern.compile "(a)(b)(c)(d)(e)(f)(g)(h)(i)(?P<exp.month>j)(?P<exp[y]>k)?" = .ok p ∧
      11 ≤ p.groupCount ∧ (n, 11) ∈ p.names.entries ∧ n.text = "exp[y]" ∧
      validate p.groups "$11" = .ok () ∧ validate p.groups "$\x7bexp[y]\x7d" = .ok () ∧
      expand p.groups "$11".toList text m = .ok ['k'] ∧
      expand p.groups "$\x7bexp[y]\x7d".toList text m = .ok ['k'] ∧
      expand p.groups "$10".toList text m' = .ok ['j'] ∧
      expand p.groups "$11".toList text m' = .ok [] ∧
      expand p.groups "$\x7bexp[y]\x7d".toList text m' = .ok [] := by
  intro text m m'
  have hfacts :
      (Pattern.compile "(a)(b)(c)(d)(e)(f)(g)(h)(i)(?P<exp.month>j)(?P<exp[y]>k)?").toOption.map
        (fun p => (p.groupCount, p.names.entries.map fun e => (e.1.text, e.2))) =
          some (11, [("exp[y]", 11), ("exp.month", 10)]) := by decide +kernel
  have htaken : Captures text m 11 ['k'] := .taken (show m.group? 11 = some (10, 11) from rfl)
  have htenth : Captures text m' 10 ['j'] := .taken (show m'.group? 10 = some (9, 10) from rfl)
  have huntaken : Captures text m' 11 [] := .untaken rfl
  cases hp : Pattern.compile "(a)(b)(c)(d)(e)(f)(g)(h)(i)(?P<exp.month>j)(?P<exp[y]>k)?" with
  | error e =>
    rw [hp] at hfacts
    cases hfacts
  | ok p =>
    rw [hp] at hfacts
    obtain ⟨hcount, hnames⟩ := Prod.mk.inj (Option.some.inj hfacts)
    obtain ⟨⟨n, index⟩, hmem, hn⟩ := List.mem_map.mp (hnames ▸ List.mem_cons_self)
    obtain ⟨hn, rfl⟩ := Prod.mk.inj hn
    obtain ⟨hnumbers, hnames, -⟩ := references_reach_groups hp
    obtain ⟨hnumber, hexpand⟩ := hnumbers 11 (Nat.le_of_eq hcount.symm)
    obtain ⟨-, hexpand'⟩ := hnumbers 10 (Nat.le_of_lt (Nat.lt_of_lt_of_eq (by decide) hcount.symm))
    obtain ⟨-, hle, hname, hsame⟩ := hnames n 11 hmem
    rw [hn] at hname hsame
    exact ⟨p, n, rfl, hle, hmem, hn, hnumber, hname, (hexpand text m _).mpr htaken,
      ((hsame text m).1 _).mpr htaken, (hexpand' text m' _).mpr htenth, (hexpand text m' _).mpr huntaken,
      ((hsame text m').1 _).mpr huntaken⟩

end Fieldwise.Template
