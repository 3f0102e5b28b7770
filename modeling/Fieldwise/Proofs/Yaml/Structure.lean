import Fieldwise.Proofs.Yaml.Grammar
import Fieldwise.Proofs.Yaml.Scan

/-!
# Keys, entries and collections

The tokens of what stands between the scalars of a written text: keys with their colons (`scan_key`), the
hyphens before the entries of sequences (`scan_entry`), sequences without entries (`scan_emptySequence`), and
the end of the text (`map_kind_run`).
-/

namespace Fieldwise.Yaml

namespace Scan

variable {s r : Scan} {rest : List Char} {column n : Nat} {ks : List TokenKind} {levels : List Nat}
variable {keyAllowed : Bool}

/-! ### Behind a token -/

/-- On the same line the next token comes behind a space. -/
theorem At.before_space (h : s.At (' ' :: rest) column ks levels keyAllowed) (hdone : s.isDone = false)
    (hrest : StartsToken rest) (hlevels : levels.headD 0 ≤ column + 2) :
    s.Before rest (column + 1) ks levels keyAllowed := by
  have hskip := skipSpacing_spaces (n := 1) false s.keyAllowed h.rest_eq hrest
  have hrest_eq : (s.cursor.past (spaces 1)).rest = rest := Cursor.rest_past_spaces (n := 1) h.rest_eq
  have hcolumn : (s.cursor.past (spaces 1)).column = column + 1 := by
    rw [Cursor.column_past isBreak_of_mem_spaces, h.column_eq, length_spaces]
  have hbefore := before_of_skipSpacing hdone h.outerKeys_eq hskip (by rw [hrest_eq, h.rest_eq]; simp)
    (by rw [h.key_eq]; nofun)
  rw [hrest_eq, hcolumn, h.kinds_eq, h.levels_eq, h.keyAllowed_eq, ended_eq_zero hlevels] at hbefore
  simpa [blockEnds] using hbefore

/-- Or it comes at the beginning of the next line. -/
theorem At.before_newline (h : s.At ('\n' :: rest) column ks levels keyAllowed) (hdone : s.isDone = false)
    (hrest : StartsToken rest) (hlevels : levels.headD 0 ≤ 1) : s.Before rest 0 ks levels true := by
  have hskip := skipSpacing_newline (n := 0) s.keyAllowed h.rest_eq hrest
  have hover := Cursor.past_newline (n := 0) h.rest_eq
  have hbefore := before_of_skipSpacing hdone h.outerKeys_eq hskip (by rw [hover, h.rest_eq]; simp)
    (by rw [h.key_eq]; nofun)
  rw [hover] at hbefore
  rw [h.kinds_eq, h.levels_eq, ended_eq_zero hlevels] at hbefore
  simpa [blockEnds] using hbefore

/-! ### Scalars -/

/-- The scalar of a text is a token, and the scan comes to the next line. -/
theorem scan_scalar {text : String} {level : Nat}
    (h : s.Before (writeScalar (level + 1) text ++ (spaces n ++ rest)) column ks (level :: levels) keyAllowed)
    (hn : n < level) (hcolumn : level ≤ column) (hrest : StartsToken rest) :
    ∃ s', s.Reaches s' ∧
      s'.Before rest n (ks ++ .scalar text.toList (styleOf text.toList) :: blockEnds (ended (n + 1) (level :: levels)))
        ((level :: levels).drop (ended (n + 1) (level :: levels))) true := by
  refine h.reaches fun r hr => ?_
  have hlevel : r.level = level := by rw [Scan.level, hr.levels_eq, List.headD_cons]
  subst hlevel
  obtain ⟨t, htake, hline⟩ := takeScalar_endsLine hr (Nat.zero_lt_of_lt hn) hn hcolumn hrest
  obtain ⟨s', hdrop, hlt, hbefore⟩ := hline.before
  refine ⟨s', by rw [htake, Option.bind_some, hdrop], hr.rest_eq ▸ hlt, ?_⟩
  rwa [hr.kinds_eq, hr.levels_eq] at hbefore

/-! ### Entries -/

/-- The hyphen of an entry is a token, and the entry begins two columns behind it. -/
theorem scan_entry (h : s.Before ('-' :: ' ' :: rest) 0 ks levels true) (hlevel : levels.headD 0 = 1)
    (hrest : StartsToken rest) : ∃ s', s.Reaches s' ∧ s'.Before rest 2 (ks ++ [.blockEntry]) levels true := by
  refine h.reaches fun r hr => ?_
  have hflow := inFlow_eq_false hr.outerKeys_eq
  have hlevel' : r.level = 1 := by rw [Scan.level, hr.levels_eq, hlevel]
  have hopen : r.openBlock .blockSequenceStart r.count r.cursor.mark = r := by
    rw [openBlock, if_neg]
    simp [hlevel', Cursor.mark, hr.column_eq]
  have hafter : (r.cursor.skip 1).rest = ' ' :: rest := by rw [Cursor.skip, hr.rest_eq]; rfl
  have hat : ({ r.take .blockEntry 1 with keyAllowed := true } : Scan).At (' ' :: rest) 1 (ks ++ [.blockEntry]) levels
      true := by
    refine ⟨hafter, ?_, ?_, hr.levels_eq, hr.key_eq, hr.outerKeys_eq, rfl⟩
    · exact congrArg (· + 1) hr.column_eq
    · simp [kinds, take, advance, push, ← hr.kinds_eq]
  refine ⟨{ r.take .blockEntry 1 with keyAllowed := true }, ?_, ?_, hat.before_space ?_ hrest (by omega)⟩
  · rw [takeToken_hyphen hr.rest_eq, takeBlockEntry, hflow, hr.keyAllowed_eq, hopen, dropKey_of_none hr.key_eq]
    exact dropStaleKeys_of_none hr.key_eq hr.outerKeys_eq
  · show (r.cursor.skip 1).rest.length < _
    rw [hafter]
    simp
  · rfl

/-! ### Keys -/

/-- The names of members: letters, with underscores between them. -/
structure IsName (name : List Char) : Prop where
  ne_nil : name ≠ []
  all_eq_true : name.all (fun x => x.isAlpha || x == '_') = true
  length_le : name.length ≤ 1024

section Names

variable {name : List Char}

theorem IsName.isAlpha_or (h : IsName name) : ∀ x ∈ name, x.isAlpha = true ∨ x = '_' := by
  simpa using h.all_eq_true

theorem IsName.not_spacing (h : IsName name) : ∀ x ∈ name, isSpacing x = false := by
  intro x hx
  by_contra hspacing
  have hspacing : isSpacing x = true := by simpa using hspacing
  simp only [isSpacing, isBlank, isBreak, Bool.or_eq_true, beq_iff_eq] at hspacing
  rcases h.isAlpha_or x hx with halpha | rfl
  · rcases hspacing with (rfl | rfl) | ((((rfl | rfl) | rfl) | rfl) | rfl) <;> exact absurd halpha (by decide)
  · simp at hspacing

theorem IsName.ne {x y : Char} (h : IsName name) (hx : x ∈ name) (hy : y.isAlpha = false) (hy' : y ≠ '_') : x ≠ y := by
  rintro rfl
  rcases h.isAlpha_or x hx with halpha | rfl
  · cases halpha.symm.trans hy
  · exact hy' rfl

/-- A name can stand where a plain scalar can. -/
theorem IsName.beginsPlain {x : Char} {xs : List Char} (h : IsName (x :: xs)) (rest : List Char) :
    BeginsPlain x rest := by
  have hne : ∀ y : Char, y.isAlpha = false → y ≠ '_' → x ≠ y := fun y => h.ne List.mem_cons_self
  refine ⟨fun hmem => ?_, h.not_spacing x List.mem_cons_self, fun hx => ?_⟩
  · have hsigns : ("-.#,[]{}&*!|>'\"%@`".toList.all fun y => !y.isAlpha && y != '_') = true := by decide
    have hsign := List.all_eq_true.mp hsigns x hmem
    simp only [Bool.and_eq_true, Bool.not_eq_true', bne_iff_ne, ne_eq] at hsign
    exact hne x hsign.1 hsign.2 rfl
  · rcases hx with rfl | rfl
    · exact absurd rfl (hne '?' rfl (by decide))
    · exact absurd rfl (hne ':' rfl (by decide))

/-- A name is read up to its colon. -/
theorem IsName.readPlain {c : Cursor} (h : IsName name) (hc : c.rest = name ++ ':' :: rest)
    (hrest : endsWord rest = true) (indent : Nat) :
    readPlain false indent ⟨[], false⟩ c = some ⟨name, false, c.past name⟩ := by
  have hbreak : ∀ x ∈ name, isBreak x = false := fun x hx => isBreak_of_not_spacing (h.not_spacing x hx)
  have hafter : (c.past name).rest = ':' :: rest :=
    Cursor.rest_past hc fun x hx => ne_return_of_not_break (hbreak x hx)
  have hword : plainWord false c.rest = some name := by
    rw [hc]
    refine plainWord_append h.not_spacing (fun pre post hpre => ?_)
      (by simp [plainWord, isSpacing, isBlank, isBreak, hrest])
    have hmem : ':' ∈ name := by simp [hpre]
    exact absurd rfl (h.ne hmem rfl (by decide))
  have hhead : ∀ x ∈ c.rest.head?, x ∈ name := by
    rw [hc, List.head?_append_of_ne_nil _ h.ne_nil]
    exact fun x hx => List.mem_of_mem_head? hx
  have hstart : atDelimiter c.rest = false := by
    unfold atDelimiter
    split
    · rename_i hdash
      exact absurd rfl (h.ne (hhead '-' (by rw [hdash]; rfl)) rfl (by decide))
    · rename_i hdot
      exact absurd rfl (h.ne (hhead '.' (by rw [hdot]; rfl)) rfl (by decide))
    · rfl
  rw [Cursor.past_eq_skip hbreak] at hafter ⊢
  exact readPlain_word ⟨[], false⟩ hstart (fun x hx => h.ne (hhead x hx) rfl (by decide)) hword h.ne_nil
    (by rw [hafter]; rfl)

end Names

/-- The tokens of a key with its colon. If its mapping begins with it, that is a token as well. -/
def keyKinds (first : Bool) (name : List Char) : List TokenKind :=
  (if first then [.blockMappingStart] else []) ++ memberKinds name []

/-- The collections around the value of a key. -/
def keyLevels (column : Nat) (levels : List Nat) : List Nat :=
  if levels.headD 0 ≤ column then (column + 1) :: levels else levels

/-- A key stands in its mapping or begins one. -/
theorem headD_le_of_keyLevels {outer : List Nat} (h : keyLevels column levels = (column + 1) :: outer) :
    levels.headD 0 ≤ column + 1 := by
  rw [keyLevels] at h
  split at h
  · omega
  · rw [h]
    rfl

/-- What is known behind the name of a key, where its colon comes next. -/
def named (r : Scan) (name : List Char) : Scan :=
  { r.advance (.scalar name .plain) (r.cursor.past name) with key := r.keyStart, keyAllowed := false }

section Named

variable {name : List Char}

theorem past_name (hname : IsName name) (c : Cursor) : c.past name = c.skip name.length :=
  Cursor.past_eq_skip fun x hx => isBreak_of_not_spacing (hname.not_spacing x hx)

theorem rest_named (hname : IsName name) (hr : r.At (name ++ ':' :: rest) column ks levels true) :
    (r.named name).cursor.rest = ':' :: rest :=
  Cursor.rest_past hr.rest_eq fun x hx => ne_return_of_not_break (isBreak_of_not_spacing (hname.not_spacing x hx))

/-- A name is not too long for a key. -/
theorem dropStaleKeys_named (hname : IsName name) (hr : r.At (name ++ ':' :: rest) column ks levels true) :
    (r.named name).dropStaleKeys = some (r.named name) := by
  have hlength := hname.length_le
  -- it stands on the same line, and at most 1024 characters back
  have hfresh : dropStale (r.named name).cursor (r.named name).key = some (r.named name).key := by
    show dropStale (r.cursor.past name) r.keyStart = some r.keyStart
    rw [past_name hname, keyStart, hr.keyAllowed_eq, if_pos rfl, dropStale, if_neg]
    simp [KeyStart.isStale, Cursor.skip, Cursor.mark, hlength]
  exact dropStaleKeys_eq hfresh hr.outerKeys_eq

/-- The name of a key is a token, and stays the place where a key may have begun. -/
theorem takeToken_name (hname : IsName name) (hr : r.At (name ++ ':' :: rest) column ks levels true)
    (hrest : endsWord rest = true) : r.takeToken.bind dropStaleKeys = some (r.named name) := by
  have hread : readPlain false ({ r with key := r.keyStart } : Scan).level ⟨[], false⟩ r.cursor =
      some ⟨name, false, r.cursor.past name⟩ := hname.readPlain hr.rest_eq hrest _
  have hflow := inFlow_eq_false (s := { r with key := r.keyStart }) hr.outerKeys_eq
  have htake : r.takeToken = some (r.named name) := by
    obtain ⟨x, xs, rfl⟩ := List.exists_cons_of_ne_nil hname.ne_nil
    rw [takeToken_plain (hname.beginsPlain _) hr.rest_eq hr.outerKeys_eq, takePlain,
      markKey_eq hr.key_eq hr.outerKeys_eq]
    simp only [bind, Option.bind_some, hflow, hread]
    rfl
  rw [htake, Option.bind_some, dropStaleKeys_named hname hr]

/-- Nothing stands between a name and its colon. -/
theorem ready_named (hname : IsName name) (hr : r.At (name ++ ':' :: rest) column ks levels true)
    (hlevels : levels.headD 0 ≤ column + 1) : (r.named name).ready = some (r.named name) := by
  have hskip : skipSpacing false (r.named name).keyAllowed (r.named name).cursor = ((r.named name).cursor, false) :=
    skipSpacing_spaces (n := 0) false false (rest_named hname hr)
      ⟨startsWord_cons.mpr rfl, fun x hx => by cases hx; decide⟩
  have hflow : (r.named name).inFlow = false := inFlow_eq_false hr.outerKeys_eq
  have hlevel : (r.named name).level ≤ (r.named name).cursor.column + 1 := by
    show r.levels.headD 0 ≤ (r.cursor.past name).column + 1
    rw [past_name hname, hr.levels_eq]
    show _ ≤ r.cursor.column + name.length + 1
    rw [hr.column_eq]
    omega
  have hdrop : ({ r.named name with cursor := (r.named name).cursor, keyAllowed := false } : Scan).dropStaleKeys =
      some (r.named name) := dropStaleKeys_named hname hr
  rw [ready, hflow, hskip]
  simp only [hdrop, bind, Option.bind_some, pure, closeBlocks_of_le hlevel]

/-- A token is added before those that come after its number. -/
theorem insertAt_eq {after before : List Token} {number : Nat} (t : Token) (htokens : s.tokens = after ++ before)
    (hcount : s.count = number + after.length) :
    s.insertAt number t = { s with tokens := after ++ t :: before, count := s.count + 1 } := by
  rw [insertAt, hcount, Nat.add_sub_cancel_left, htokens, List.splitAt_eq, List.take_left, List.drop_left]

/-- The colon behind the name of a key makes it one. -/
theorem takeValue_named (hname : IsName name) (hr : r.At (name ++ ':' :: rest) column ks levels true) :
    ∃ s', (r.named name).takeValue = some s' ∧ s'.isDone = false ∧
      s'.At rest (column + name.length + 1) (ks ++ keyKinds (levels.headD 0 ≤ column) name) (keyLevels column levels)
        false := by
  have hrest : ((r.cursor.past name).skip 1).rest = rest := congrArg (List.drop 1) (rest_named hname hr)
  have hcolumn : ((r.cursor.past name).skip 1).column = column + name.length + 1 := by
    rw [past_name hname, ← hr.column_eq]
    rfl
  obtain ⟨cursor, tokens, count, levels, key, outerKeys, keyAllowed⟩ := r
  obtain ⟨-, rfl, hkinds, rfl, -, rfl, rfl⟩ := hr
  have hstart : keyStart ⟨cursor, tokens, count, levels, key, [], true⟩ =
      some ⟨levels.headD 0 == cursor.column + 1, count, cursor.index, cursor.mark⟩ := rfl
  rw [takeValue, named, hstart]
  dsimp only
  rw [insertAt_eq _ (show _ = [_] ++ tokens from rfl) rfl]
  -- the token of the key goes before that of its name; if the key is the first one, the token that begins the
  -- mapping goes before both
  by_cases hfirst : levels.headD 0 ≤ cursor.column
  · rw [openBlock, if_pos (by simpa [inFlow, level, Cursor.mark, advance, push] using hfirst),
      insertAt_eq _ (show _ = [_, _] ++ tokens from rfl) rfl]
    refine ⟨_, rfl, rfl, ⟨hrest, hcolumn, ?_, ?_, rfl, rfl, rfl⟩⟩
    · simp only [keyKinds, hfirst, decide_true, if_true]
      simp [kinds, take, advance, push, memberKinds, ← hkinds]
    · simp only [keyLevels, if_pos hfirst]
      rfl
  · rw [openBlock, if_neg (by simpa [inFlow, level, Cursor.mark, advance, push] using hfirst)]
    refine ⟨_, rfl, rfl, ⟨hrest, hcolumn, ?_, ?_, rfl, rfl, rfl⟩⟩
    · simp only [keyKinds, hfirst, decide_false, Bool.false_eq_true, if_false]
      simp [kinds, take, advance, push, memberKinds, ← hkinds]
    · simp only [keyLevels, if_neg hfirst]
      rfl

end Named

/-- A key with its colon is taken, and its mapping is begun if it is the first of its keys. -/
theorem scan_key {name : List Char} (hname : IsName name) (h : s.Before (name ++ ':' :: rest) column ks levels true)
    (hrest : endsWord rest = true) (hlevels : levels.headD 0 ≤ column + 1) :
    ∃ s', s.Reaches s' ∧ s'.isDone = false ∧
      s'.At rest (column + name.length + 1) (ks ++ keyKinds (levels.headD 0 ≤ column) name) (keyLevels column levels)
        false := by
  -- one step takes the name, and the next one the colon
  obtain ⟨s₁, hreaches, r, hr, rfl⟩ := h.reaches (P := fun s₁ => ∃ r : Scan,
      r.At (name ++ ':' :: rest) column ks levels true ∧ s₁ = r.named name) fun r hr => by
    refine ⟨_, takeToken_name hname hr hrest, ?_, r, hr, rfl⟩
    rw [rest_named hname hr, List.length_append]
    have := List.length_pos_iff.mpr hname.ne_nil
    omega
  obtain ⟨s', htake, hdone, hat⟩ := takeValue_named hname hr
  have hstep : (r.named name).step = some s' := by
    rw [step_eq, ready_named hname hr hlevels, Option.bind_some, takeToken_colon (rest_named hname hr) hrest, htake]
    exact dropStaleKeys_of_none hat.key_eq hat.outerKeys_eq
  refine ⟨s', hreaches.trans (.of_step rfl hstep ?_), hdone, hat⟩
  rw [rest_named hname hr, hat.rest_eq]
  simp

/-! ### Sequences without entries -/

/-- What is known behind the bracket that begins a sequence, with which no key has begun. -/
structure InBrackets (s : Scan) (rest : List Char) (kinds : List TokenKind) (levels : List Nat) : Prop where
  isDone_eq : s.isDone = false
  rest_eq : s.cursor.rest = rest
  kinds_eq : s.kinds = kinds
  levels_eq : s.levels = levels
  key_eq : s.key = none
  outerKeys_eq : s.outerKeys = [none]

/-- The bracket that begins a sequence. -/
theorem takeToken_openBracket (hr : r.At ('[' :: rest) column ks levels false) :
    ∃ s', r.takeToken.bind dropStaleKeys = some s' ∧ s'.InBrackets rest (ks ++ [.flowSequenceStart]) levels := by
  obtain ⟨cursor, tokens, count, levels, key, outerKeys, keyAllowed⟩ := r
  obtain ⟨hrest, -, hkinds, rfl, rfl, rfl, rfl⟩ := hr
  rw [takeToken_open hrest]
  refine ⟨_, rfl, ⟨rfl, congrArg (List.drop 1) hrest, ?_, rfl, rfl, rfl⟩⟩
  simp [kinds, take, advance, push, ← hkinds]

/-- The bracket that ends it. -/
theorem step_closeBracket (h : s.InBrackets (']' :: rest) ks levels) :
    ∃ s', s.step = some s' ∧ s'.isDone = false ∧
      s'.At rest (s.cursor.column + 1) (ks ++ [.flowSequenceEnd]) levels false := by
  obtain ⟨-, hrest, rfl, rfl, hkey, houter⟩ := h
  have hskip : skipSpacing true s.keyAllowed s.cursor = (s.cursor, s.keyAllowed) :=
    skipSpacing_spaces (n := 0) true s.keyAllowed hrest ⟨startsWord_cons.mpr rfl, fun x hx => by cases hx; decide⟩
  have hflow : s.inFlow = true := by simp [inFlow, houter]
  have hdrop : s.dropStaleKeys = some s := by
    obtain ⟨cursor, tokens, count, levels, key, outerKeys, keyAllowed⟩ := s
    cases hkey
    cases houter
    rfl
  have hready : s.ready = some s := by
    rw [ready, hflow, hskip]
    simp only [bind, Option.bind_some, pure, hdrop, closeBlocks, hflow, if_true]
  rw [step_eq, hready, Option.bind_some, takeToken_close hrest, takeFlowEnd, dropKey_of_none hkey]
  simp only [bind, Option.bind_some, pure, houter]
  refine ⟨_, rfl, rfl, ⟨congrArg (List.drop 1) hrest, rfl, ?_, rfl, rfl, rfl, rfl⟩⟩
  simp [kinds, take, advance, push]

/-- A sequence without entries is taken, and the scan comes to the next line. -/
theorem scan_emptySequence (h : s.Before ('[' :: ']' :: '\n' :: rest) column ks levels false) (hrest : StartsToken rest)
    (hlevels : levels.headD 0 ≤ 1) :
    ∃ s', s.Reaches s' ∧ s'.Before rest 0 (ks ++ [.flowSequenceStart, .flowSequenceEnd]) levels true := by
  obtain ⟨s₁, hreaches, h₁⟩ := h.reaches
    (P := fun s₁ => s₁.InBrackets (']' :: '\n' :: rest) (ks ++ [.flowSequenceStart]) levels) fun r hr => by
      obtain ⟨s₁, htake, h₁⟩ := takeToken_openBracket hr
      exact ⟨s₁, htake, by rw [h₁.rest_eq]; simp, h₁⟩
  obtain ⟨s₂, hstep, hdone, hat⟩ := step_closeBracket h₁
  have hbefore := hat.before_newline hdone hrest hlevels
  rw [List.append_assoc] at hbefore
  refine ⟨s₂, hreaches.trans (.of_step h₁.isDone_eq hstep ?_), hbefore⟩
  rw [hat.rest_eq, h₁.rest_eq]
  simp

/-! ### The end of a text -/

/-- At the end of a text the collections around it are closed, and then it is done. -/
theorem takeToken_end (hr : r.At [] 0 ks levels keyAllowed) :
    ∃ s', r.takeToken.bind dropStaleKeys = some s' ∧ s'.isDone = true ∧
      s'.kinds = ks ++ blockEnds (ended 0 levels) ++ [.streamEnd] := by
  obtain ⟨tokens, count, hclose, hkinds⟩ := closeBlocks_eq hr.outerKeys_eq 0
  have htake : r.takeToken = r.takeEnd := by rw [takeToken, hr.rest_eq]
  have hdrop : (r.closeBlocks 0).dropKey = some (r.closeBlocks 0) := dropKey_of_none (by rw [hclose]; exact hr.key_eq)
  rw [htake, takeEnd, if_pos hr.column_eq]
  simp only [bind, Option.bind_some, pure, hdrop]
  refine ⟨_, dropStaleKeys_of_none (by rw [hclose]; exact hr.key_eq) (by rw [hclose]; exact hr.outerKeys_eq), rfl, ?_⟩
  rw [← hr.kinds_eq, ← hr.levels_eq, ← hkinds, hclose]
  simp [kinds, pushAt, push]

theorem map_kind_run (h : s.Before [] 0 ks levels keyAllowed) (steps : Nat) :
    (run (steps + 2) s).map Token.kind = ks ++ blockEnds (ended 0 levels) ++ [.streamEnd] := by
  obtain ⟨hdone, -, r, hready, hr⟩ := h
  obtain ⟨s', htake, hdone', hkinds⟩ := takeToken_end hr
  have hstep : s.step = some s' := by rw [step_eq, hready, Option.bind_some, htake]
  rw [run, hdone, if_neg Bool.false_ne_true, hstep]
  show (run (steps + 1) s').map Token.kind = _
  rw [run, hdone', if_pos rfl, List.map_reverse, ← hkinds]
  rfl

end Scan

end Fieldwise.Yaml
