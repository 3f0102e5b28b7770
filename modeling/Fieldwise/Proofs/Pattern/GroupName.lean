import Fieldwise.Pattern.Basic
import Mathlib.Data.List.TakeWhile

/-!
# The names of capture groups

Wherever a group can be opened in a pattern, it can be given any name that `isGroupName` admits and no
other group has (`readGroup_named`), so that each of these names is that of a group of some pattern
(`exists_compile_named`). A name leads to the group that it was given to and to no other
(`GroupNames.index?_eq_some_iff`), and this is among the groups that the compiled pattern counts
(`le_groupCount_of_mem_names`). A text that is no name leads nowhere (`GroupNames.index?_eq_none_iff`).
-/

namespace Fieldwise.Pattern

/-! ### What names are made of -/

/-- No digit begins a name. -/
theorem not_isDigit_of_isNameStart {c : Char} (h : isNameStart c = true) : c.isDigit = false := by
  cases hdigit : c.isDigit with
  | false => rfl
  | true =>
    obtain ⟨hlow, hhigh⟩ := Char.isDigit_iff_toNat.mp hdigit
    change 48 ≤ c.toNat at hlow
    change c.toNat ≤ 57 at hhigh
    have hletters : c.isAlpha = (decide (65 ≤ c.val ∧ c.val ≤ 90) ||
        decide (97 ≤ c.val) && decide (c.val ≤ 122)) := rfl
    have halpha : c.isAlpha = false := by
      rw [hletters, ← Bool.not_eq_true]
      simp only [UInt32.le_iff_toNat_le, Bool.or_eq_true, Bool.and_eq_true, decide_eq_true_eq]
      change ¬((65 ≤ c.toNat ∧ c.toNat ≤ 90) ∨ (97 ≤ c.toNat ∧ c.toNat ≤ 122))
      omega
    have hline : (c == '_') = false := by
      rw [beq_eq_false_iff_ne]
      rintro rfl
      cases hdigit
    rw [isNameStart, hline, isAlphabetic, if_pos (by omega), halpha] at h
    cases h

/-- What can begin a name can also go on with it. -/
theorem isNameRest_of_isNameStart {c : Char} (h : isNameStart c = true) : isNameRest c = true := by
  simp only [isNameStart, isAlphabetic, Bool.or_eq_true] at h
  simp only [isNameRest, isAlphanumeric, Bool.or_eq_true]
  rcases h with h | h
  · exact .inl (.inl (.inl (.inl h)))
  · right
    split at h
    · rw [if_pos ‹_›, Char.isAlphanum, h, Bool.true_or]
    · rw [if_neg ‹_›, h, Bool.true_or]

namespace GroupName

/-- A name is known by its characters. -/
theorem ext {m n : GroupName} (h : m.chars = n.chars) : m = n := by
  obtain ⟨chars, valid⟩ := m
  cases h
  rfl

variable (n : GroupName)

/-- A name is not empty, and its first character can begin a name. -/
theorem exists_chars_eq_cons : ∃ (c : Char) (cs : List Char), n.chars = c :: cs ∧
    isNameStart c = true ∧ cs.all isNameRest = true := by
  cases hchars : n.chars with
  | nil =>
    have hvalid := n.valid
    rw [hchars] at hvalid
    cases hvalid
  | cons c cs =>
    have hvalid := n.valid
    rw [hchars, isGroupName, Bool.and_eq_true] at hvalid
    exact ⟨c, cs, rfl, hvalid⟩

/-- Names hold no character that cannot stand in a name. -/
theorem not_mem_chars {c : Char} (h : isNameRest c = false) : c ∉ n.chars := by
  obtain ⟨first, rest, hchars, hfirst, hrest⟩ := n.exists_chars_eq_cons
  rw [hchars]
  intro hmem
  rcases List.mem_cons.mp hmem with rfl | hmem
  · rw [isNameRest_of_isNameStart hfirst] at h
    cases h
  · rw [List.all_eq_true.mp hrest c hmem] at h
    cases h

end GroupName

/-! ### Which group a name stands for -/

/-- A name stands for the group that it was given to. -/
theorem GroupNames.index?_eq_some_iff {t : GroupNames} {n : GroupName} {index : Nat} :
    t.index? n.chars = some index ↔ (n, index) ∈ t.entries := by
  obtain ⟨entries, hnodup⟩ := t
  change (entries.find? fun e => e.1.chars == n.chars).map Prod.snd = some index ↔ _ ∈ entries
  induction entries with
  | nil => simp
  | cons e entries ih =>
    obtain ⟨hnew, hnodup⟩ := List.nodup_cons.mp hnodup
    have ih := ih hnodup
    by_cases hname : e.1 = n
    · rw [List.find?_cons_of_pos (by simp [hname]), Option.map_some, Option.some.injEq, List.mem_cons]
      constructor
      · rintro rfl
        exact .inl (by rw [← hname])
      · rintro (rfl | hmem)
        · rfl
        · exact absurd (hname ▸ List.mem_map_of_mem hmem) hnew
    · have hchars : (e.1.chars == n.chars) = false := by
        rw [beq_eq_false_iff_ne]
        exact fun heq => hname (GroupName.ext heq)
      rw [List.find?_cons_of_neg (by simp [hchars]), ih, List.mem_cons]
      constructor
      · exact .inr
      · rintro (rfl | hmem)
        · exact absurd rfl hname
        · exact hmem

/-- What leads to a group is the text of a name that the group was given. -/
theorem GroupNames.index?_eq_some_iff_exists {t : GroupNames} {text : List Char} {index : Nat} :
    t.index? text = some index ↔ ∃ n, (n, index) ∈ t.entries ∧ n.chars = text := by
  constructor
  · intro h
    obtain ⟨⟨n, i⟩, hfind, rfl⟩ := Option.map_eq_some_iff.mp h
    have heq : (n.chars == text) = true := by simpa using List.find?_some hfind
    exact ⟨n, List.mem_of_find?_eq_some hfind, beq_iff_eq.mp heq⟩
  · rintro ⟨n, hmem, rfl⟩
    exact index?_eq_some_iff.mpr hmem

/-- Any other text leads nowhere. -/
theorem GroupNames.index?_eq_none_iff {t : GroupNames} {text : List Char} :
    t.index? text = none ↔ ∀ n index, (n, index) ∈ t.entries → n.chars ≠ text := by
  rw [Option.eq_none_iff_forall_ne_some]
  simp only [ne_eq, index?_eq_some_iff_exists]
  exact ⟨fun h n index hmem heq => h index ⟨n, hmem, heq⟩, fun h index ⟨n, hmem, heq⟩ => h n index hmem heq⟩

/-- The members of a list are at most the greatest of them. -/
theorem le_foldl_max {i : Nat} {l : List Nat} (h : i ∈ l) (n : Nat) : i ≤ l.foldl max n := by
  have hbase : ∀ (l : List Nat) (n : Nat), n ≤ l.foldl max n := by
    intro l
    induction l with
    | nil => exact fun n => Nat.le_refl n
    | cons a l ih => exact fun n => Nat.le_trans (Nat.le_max_left n a) (ih _)
  induction l generalizing n with
  | nil => cases h
  | cons a l ih =>
    rcases List.mem_cons.mp h with rfl | h
    · exact Nat.le_trans (Nat.le_max_right n i) (hbase l _)
    · exact ih h _

/-- Only groups that count have names. -/
theorem le_groupCount_of_mem_names {source : String} {p : Pattern} (h : compile source = .ok p)
    {n : GroupName} {index : Nat} (hmem : (n, index) ∈ p.names.entries) : index ≤ p.groupCount := by
  obtain ⟨expr, names, -, rfl⟩ := exists_parse_of_compile h
  have hkept : expr.captureIndexes.contains index = true := (List.mem_filter.mp hmem).2
  exact le_foldl_max (List.contains_iff_mem.mp hkept) 0

/-! ### Names as they are written -/

variable {p : Progress} {n : GroupName} {pos : Nat} {rest : List Char}

/-- A name is read up to the angle bracket behind it, and the bracket with it. -/
theorem readGroupName_append (n : GroupName) (pos : Nat) (rest : List Char) (verbose : Bool) :
    readGroupName ⟨pos, n.chars ++ '>' :: rest, verbose⟩ =
      .ok ((n, ⟨pos, pos + n.chars.length⟩), ⟨pos + n.chars.length + 1, rest, verbose⟩) := by
  obtain ⟨c, cs, hchars, hc, hcs⟩ := n.exists_chars_eq_cons
  have hclose : (c == '>') = false := by
    rw [beq_eq_false_iff_ne]
    rintro rfl
    exact absurd hc (by decide)
  have htake : (cs ++ '>' :: rest).takeWhile isNameRest = cs := by
    rw [List.takeWhile_append_of_pos (List.all_eq_true.mp hcs), List.takeWhile_cons_of_neg (by decide),
      List.append_nil]
  have hdrop : (cs ++ '>' :: rest).dropWhile isNameRest = '>' :: rest := by
    rw [List.dropWhile_append_of_pos (List.all_eq_true.mp hcs), List.dropWhile_cons_of_neg (by decide)]
  have hvalid : isGroupName (c :: cs) = true := hchars ▸ n.valid
  have hn : (⟨c :: cs, hvalid⟩ : GroupName) = n := GroupName.ext hchars.symm
  simp only [readGroupName, hchars, List.cons_append, hclose, hc, htake, hdrop, hvalid, hn, beq_self_eq_true,
    Bool.not_true, Bool.false_eq_true, if_false, if_true, dif_pos]

/-- Behind an opening parenthesis there is nothing to step over before a question mark. -/
theorem bumpSpaced_question (pos : Nat) (rest : List Char) (verbose : Bool) :
    Cursor.bumpSpaced ⟨pos, '(' :: '?' :: rest, verbose⟩ = ⟨pos + 1, '?' :: rest, verbose⟩ := by
  cases verbose <;> rfl

/-- A group is given the name that is written, if no other group has it. -/
theorem readGroup_named (hnew : n ∉ p.names.entries.map Prod.fst) (pos : Nat) (rest : List Char)
    (verbose : Bool) :
    let start : Cursor := ⟨pos, '(' :: '?' :: 'P' :: '<' :: (n.chars ++ '>' :: rest), verbose⟩
    let after : Cursor := ⟨pos + 4 + n.chars.length + 1, rest, verbose⟩
    readGroup p start =
      .ok (Progress.openGroup
        { p with
          captures := p.captures + 1
          names := p.names.insert n (p.captures + 1) hnew
          nameSpans := (n, ⟨pos + 4, pos + 4 + n.chars.length⟩) :: p.nameSpans }
        start.here (.capture (p.captures + 1)) start after, after) := by
  intro start after
  have hlook : (["?=", "?!", "?<=", "?<!"].findSome? fun s =>
      Cursor.skip? ⟨pos + 1, '?' :: 'P' :: '<' :: (n.chars ++ '>' :: rest), verbose⟩ s.toList) = none := rfl
  have hskip : Cursor.skip? ⟨pos + 1, '?' :: 'P' :: '<' :: (n.chars ++ '>' :: rest), verbose⟩
      "?P<".toList = some ⟨pos + 1 + 3, n.chars ++ '>' :: rest, verbose⟩ := rfl
  rw [readGroup, bumpSpaced_question]
  simp only [hlook, hskip, Option.some_or, readGroupName_append]
  show (if h : n ∈ p.names.entries.map Prod.fst then _ else _) = _
  rw [dif_neg hnew]

/-- A closing parenthesis makes what has been read since the group was opened its contents. -/
theorem readPart_close {span : Span} {kind : GroupKind} {before items : Sequence} {verbose : Bool}
    {stack : List Layer} {captures : Nat} {names : GroupNames} {spans : List (GroupName × Span)} :
    readPart ⟨.group span kind before verbose :: stack, items, captures, names, spans⟩
        ⟨pos, ')' :: rest, verbose⟩ =
      .ok (Progress.push ⟨stack, before, captures, names, spans⟩
          (.group ⟨span.start, pos + 1⟩ kind (items.toAst pos)), ⟨pos + 1, rest, verbose⟩) := rfl

/-- Reading goes on behind a part of a pattern. -/
theorem readParts_of_readPart {p p' : Progress} {pos : Nat} {c : Char} {cs : List Char} {after : Cursor}
    (h : readPart p ⟨pos, c :: cs, false⟩ = .ok (p', after)) (hafter : after.rest.length ≤ cs.length) :
    readParts p ⟨pos, c :: cs, false⟩ = readParts p' after := by
  have hskip : Cursor.skipSpace ⟨pos, c :: cs, false⟩ = ⟨pos, c :: cs, false⟩ := rfl
  have hend : Cursor.atEnd ⟨pos, c :: cs, false⟩ = false := rfl
  rw [readParts]
  simp only [hskip, hend, h, Bool.false_eq_true, if_false]
  exact dif_pos (Nat.lt_succ_of_le hafter)

/-- A pattern that has been read to its end. -/
theorem readParts_nil (p : Progress) (pos : Nat) :
    readParts p ⟨pos, [], false⟩ = .ok (p, ⟨pos, [], false⟩) := by
  rw [readParts]
  rfl

/-- A pattern that is one named group around nothing is taken apart as that. -/
theorem parse_named (n : GroupName) : ∃ span inner : Span,
    Ast.parse ("(?P<" ++ n.text ++ ">)") =
      .ok (.group span (.capture 1) (.empty inner), GroupNames.empty.insert n 1 List.not_mem_nil) := by
  have htext : ("(?P<" ++ n.text ++ ">)").toList =
      '(' :: '?' :: 'P' :: '<' :: (n.chars ++ ['>', ')']) := by
    rw [String.toList_append, String.toList_append, GroupName.text, String.toList_ofList,
      List.append_assoc]
    simp
  have hopen : readPart ⟨[], ⟨0, []⟩, 0, .empty, []⟩
      ⟨0, '(' :: '?' :: 'P' :: '<' :: (n.chars ++ ['>', ')']), false⟩ = _ :=
    readGroup_named (n := n) List.not_mem_nil 0 [')'] false
  have hparts := (readParts_of_readPart hopen (by simp)).trans
    (readParts_of_readPart readPart_close (Nat.le_refl 0))
  rw [readParts_nil] at hparts
  refine ⟨⟨0, 4 + n.chars.length + 2⟩, .point (4 + n.chars.length + 1), ?_⟩
  rw [Ast.parse, htext]
  dsimp only
  rw [hparts]
  rfl

/-- Any name can be given to a group. -/
theorem exists_compile_named (n : GroupName) :
    ∃ p, compile ("(?P<" ++ n.text ++ ">)") = .ok p ∧ (n, 1) ∈ p.names.entries := by
  obtain ⟨span, inner, hparse⟩ := parse_named n
  have hmeaning : parse ("(?P<" ++ n.text ++ ">)") =
      .ok (.capture 1 .empty, GroupNames.empty.insert n 1 List.not_mem_nil) := by
    rw [parse, hparse]
    rfl
  have hfits : (Expr.capture 1 .empty).fits sizeLimit = true := by decide
  refine ⟨ofExpr ("(?P<" ++ n.text ++ ">)") (.capture 1 .empty)
    (GroupNames.empty.insert n 1 List.not_mem_nil), ?_, ?_⟩
  · rw [compile, compileWithin, hmeaning]
    exact if_pos hfits
  · exact List.mem_filter.mpr ⟨List.mem_cons_self, rfl⟩

end Fieldwise.Pattern
