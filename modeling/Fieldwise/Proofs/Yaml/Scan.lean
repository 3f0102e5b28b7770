import Fieldwise.Proofs.Yaml.Scalar.Plain
import Fieldwise.Proofs.Yaml.Scalar.Printable

/-!
# The tokens of a written text

A step of the scan comes to the beginning of a token (`Scan.Before`), adds the token and goes behind it.
For every token that is written there is a lemma that tells what the next token is before which the scan
then comes, with which tokens so far and in which collections.
-/

namespace Fieldwise.Yaml

namespace Scan

/-! ### Steps -/

/-- The scan comes to another place in so many steps, of which each takes a character at the least. -/
def Reaches (s s' : Scan) : Prop :=
  ∃ n, n + s'.cursor.rest.length ≤ s.cursor.rest.length ∧ ∀ steps, run (steps + n) s = run steps s'

theorem Reaches.refl (s : Scan) : s.Reaches s := ⟨0, by omega, fun _ => rfl⟩

theorem Reaches.trans {s₁ s₂ s₃ : Scan} (h : s₁.Reaches s₂) (h' : s₂.Reaches s₃) : s₁.Reaches s₃ := by
  obtain ⟨m, hm, hrun⟩ := h
  obtain ⟨n, hn, hrun'⟩ := h'
  exact ⟨n + m, by omega, fun steps => by rw [← Nat.add_assoc, hrun, hrun']⟩

theorem Reaches.of_step {s s' : Scan} (hdone : s.isDone = false) (h : s.step = some s')
    (hlt : s'.cursor.rest.length < s.cursor.rest.length) : s.Reaches s' := by
  refine ⟨1, by omega, fun steps => ?_⟩
  rw [run, h]
  simp [hdone]

/-- The scan at the beginning of the next token, where the collections that have ended are closed. -/
def ready (s : Scan) : Option Scan := do
  let (cursor, keyAllowed) := skipSpacing s.inFlow s.keyAllowed s.cursor
  let s ← { s with cursor, keyAllowed }.dropStaleKeys
  return s.closeBlocks (s.cursor.column + 1)

theorem step_eq (s : Scan) : s.step = s.ready.bind fun s => s.takeToken.bind dropStaleKeys := by
  simp only [step, ready, bind, Option.bind_assoc, pure, Option.bind_some]

/-- The kinds of the tokens so far. -/
def kinds (s : Scan) : List TokenKind := (s.tokens.map Token.kind).reverse

/-- What is known of a text before a token in block collections, if no key is open there. -/
structure At (s : Scan) (rest : List Char) (column : Nat) (kinds : List TokenKind) (levels : List Nat)
    (keyAllowed : Bool) : Prop where
  rest_eq : s.cursor.rest = rest
  column_eq : s.cursor.column = column
  kinds_eq : s.kinds = kinds
  levels_eq : s.levels = levels
  key_eq : s.key = none
  outerKeys_eq : s.outerKeys = []
  keyAllowed_eq : s.keyAllowed = keyAllowed

/-- The next step of the scan comes to a token, of which this is known. -/
def Before (s : Scan) (rest : List Char) (column : Nat) (kinds : List TokenKind) (levels : List Nat)
    (keyAllowed : Bool) : Prop :=
  s.isDone = false ∧ rest.length ≤ s.cursor.rest.length ∧
    ∃ r, s.ready = some r ∧ r.At rest column kinds levels keyAllowed

section

variable {s s' r t : Scan} {rest : List Char} {column : Nat} {ks : List TokenKind} {levels : List Nat}
variable {keyAllowed : Bool} {P : Scan → Prop}

/-- The token that comes next is taken, and keys that it would have brought to their end are forgotten. -/
theorem Before.reaches (h : s.Before rest column ks levels keyAllowed)
    (hstep : ∀ r : Scan, r.At rest column ks levels keyAllowed →
      ∃ s', r.takeToken.bind dropStaleKeys = some s' ∧ s'.cursor.rest.length < rest.length ∧ P s') :
    ∃ s', s.Reaches s' ∧ P s' := by
  obtain ⟨hdone, hle, r, hready, hr⟩ := h
  obtain ⟨s', hs', hlt, hP⟩ := hstep r hr
  refine ⟨s', .of_step hdone ?_ (Nat.lt_of_lt_of_le hlt hle), hP⟩
  rw [step_eq, hready, Option.bind_some, hs']

/-! ### Keys -/

theorem dropStale_of_lapsed {c : Cursor} {key : Option KeyStart}
    (h : ∀ k ∈ key, k.required = false ∧ k.mark.line < c.line) : dropStale c key = some none := by
  cases key with
  | none => rfl
  | some k =>
    obtain ⟨hrequired, hline⟩ := h k rfl
    simp [dropStale, KeyStart.isStale, hrequired, hline]

/-- A key that may be forgotten is kept or forgotten. -/
theorem dropStale_eq_some {c : Cursor} {key : Option KeyStart} (h : ∀ k ∈ key, k.required = false) :
    ∃ key', dropStale c key = some key' ∧ ∀ k ∈ key', k ∈ key := by
  cases key with
  | none => exact ⟨none, rfl, nofun⟩
  | some k =>
    by_cases hstale : k.isStale c = true
    · exact ⟨none, by simp [dropStale, hstale, h k rfl], nofun⟩
    · exact ⟨some k, by simp [dropStale, hstale], fun _ hk => hk⟩

theorem dropStaleKeys_eq {key : Option KeyStart} (h : dropStale s.cursor s.key = some key)
    (houter : s.outerKeys = []) : s.dropStaleKeys = some { s with key } := by
  simp [dropStaleKeys, h, houter]

theorem dropStaleKeys_of_none (hkey : s.key = none) (houter : s.outerKeys = []) : s.dropStaleKeys = some s := by
  have hdrop : dropStale s.cursor s.key = some none := by rw [hkey, dropStale]
  rw [dropStaleKeys_eq hdrop houter, ← hkey]

theorem dropKey_of_none (hkey : s.key = none) : s.dropKey = some s := by
  rw [dropKey, if_neg (by simp [hkey]), ← hkey]

/-! ### Collections that end -/

/-- The number of block collections that end before a column, of which the level is given. -/
def ended (level : Nat) (levels : List Nat) : Nat := (levels.takeWhile fun l => decide (level < l)).length

theorem ended_eq_zero {level : Nat} (h : levels.headD 0 ≤ level) : ended level levels = 0 := by
  cases levels with
  | nil => rfl
  | cons l levels => simpa [ended] using h

/-- The ends of so many block collections. -/
def blockEnds (n : Nat) : List TokenKind := List.replicate n .blockEnd

theorem foldl_pushAt {α : Type} (closed : List α) (s : Scan) :
    ∃ tokens count, closed.foldl (fun s _ => s.pushAt .blockEnd s.cursor.mark) s = { s with tokens, count } ∧
      (tokens.map Token.kind).reverse = s.kinds ++ blockEnds closed.length := by
  induction closed generalizing s with
  | nil => exact ⟨s.tokens, s.count, rfl, by simp [kinds, blockEnds]⟩
  | cons x closed ih =>
    obtain ⟨tokens, count, hfold, hkinds⟩ := ih (s.pushAt .blockEnd s.cursor.mark)
    refine ⟨tokens, count, hfold, ?_⟩
    rw [hkinds, blockEnds, blockEnds, List.length_cons, List.replicate_succ]
    simp [kinds, pushAt, push]

/-- The collections right of a column are closed, the innermost first. -/
theorem closeBlocks_eq (houter : s.outerKeys = []) (level : Nat) :
    ∃ tokens count, s.closeBlocks level =
        { s with tokens, count, levels := s.levels.drop (ended level s.levels) } ∧
      (tokens.map Token.kind).reverse = s.kinds ++ blockEnds (ended level s.levels) := by
  obtain ⟨tokens, count, hfold, hkinds⟩ :=
    foldl_pushAt (s.levels.takeWhile fun l => decide (level < l)) s
  refine ⟨tokens, count, ?_, hkinds⟩
  have hflow : s.inFlow = false := by simp [inFlow, houter]
  rw [closeBlocks, hflow]
  simp only [Bool.false_eq_true, if_false, hfold]
  rfl

theorem closeBlocks_of_le {level : Nat} (h : s.level ≤ level) : s.closeBlocks level = s := by
  have hclosed : (s.levels.takeWhile fun l => decide (level < l)) = [] := by
    rw [Scan.level] at h
    cases hlevels : s.levels with
    | nil => rfl
    | cons l levels =>
      rw [hlevels] at h
      simpa using h
  simp [closeBlocks, hclosed]

/-- Where the spacing leads to a token and no key stays open, the next step comes to this token. -/
theorem before_of_skipSpacing {c : Cursor} (hdone : s.isDone = false) (houter : s.outerKeys = [])
    (hskip : skipSpacing false s.keyAllowed s.cursor = (c, keyAllowed))
    (hlength : c.rest.length ≤ s.cursor.rest.length)
    (hkey : ∀ k ∈ s.key, k.required = false ∧ k.mark.line < c.line) :
    s.Before c.rest c.column (s.kinds ++ blockEnds (ended (c.column + 1) s.levels))
      (s.levels.drop (ended (c.column + 1) s.levels)) keyAllowed := by
  -- spacing is skipped, lapsed keys are forgotten, and the collections right of the column are closed
  have hflow : s.inFlow = false := by simp [inFlow, houter]
  have hdrop : ({ s with cursor := c, keyAllowed } : Scan).dropStaleKeys =
      some { s with cursor := c, keyAllowed, key := none } :=
    dropStaleKeys_eq (dropStale_of_lapsed hkey) houter
  obtain ⟨tokens, count, hclose, hkinds⟩ :=
    closeBlocks_eq (s := { s with cursor := c, keyAllowed, key := none }) houter (c.column + 1)
  refine ⟨hdone, hlength, { s with
    cursor := c, tokens, count, levels := s.levels.drop (ended (c.column + 1) s.levels), key := none, keyAllowed },
    ?_, ⟨rfl, rfl, hkinds, rfl, rfl, houter, rfl⟩⟩
  rw [ready, hflow, hskip]
  simp only [hdrop, bind, Option.bind_some, pure, hclose]

/-! ### Scalars -/

/-- What taking a token comes to if it ends a line: the token is added, and then comes the next line. -/
structure EndsLine (r t : Scan) (kind : TokenKind) (rest : List Char) (n : Nat) : Prop where
  isDone_eq : t.isDone = false
  kinds_eq : t.kinds = r.kinds ++ [kind]
  levels_eq : t.levels = r.levels
  outerKeys_eq : t.outerKeys = []
  length_lt : t.cursor.rest.length < r.cursor.rest.length
  exists_next : ∃ c, skipSpacing false t.keyAllowed t.cursor = (c, true) ∧ c.rest = rest ∧ c.column = n ∧
    ∀ k ∈ t.key, k.required = false ∧ k.mark.line < c.line
  length_le : rest.length ≤ t.cursor.rest.length

/-- Then the next step comes to the first token of the next line. -/
theorem EndsLine.before {kind : TokenKind} {n : Nat} (h : EndsLine r t kind rest n) :
    ∃ s', t.dropStaleKeys = some s' ∧ s'.cursor.rest.length < r.cursor.rest.length ∧
      s'.Before rest n (r.kinds ++ kind :: blockEnds (ended (n + 1) r.levels))
        (r.levels.drop (ended (n + 1) r.levels)) true := by
  obtain ⟨c, hskip, rfl, rfl, hkey⟩ := h.exists_next
  -- whether the key is forgotten at the end of this step or at the beginning of the next one makes no difference
  obtain ⟨key, hdrop, hsub⟩ := dropStale_eq_some (c := t.cursor) fun k hk => (hkey k hk).1
  refine ⟨{ t with key }, dropStaleKeys_eq hdrop h.outerKeys_eq, h.length_lt, ?_⟩
  have hbefore := before_of_skipSpacing (s := { t with key }) h.isDone_eq h.outerKeys_eq hskip h.length_le
    fun k hk => hkey k (hsub k hk)
  have hkinds : ({ t with key } : Scan).kinds = r.kinds ++ [kind] := h.kinds_eq
  rw [hkinds] at hbefore
  simpa [h.levels_eq] using hbefore

/-- So it is if the end of the line is still to come. -/
theorem endsLine_of_newline {kind : TokenKind} {n : Nat} {c : Cursor} {key : Option KeyStart}
    (hkind : (kind == .streamEnd) = false) (houter : r.outerKeys = [])
    (hkey : ∀ k ∈ key, k.required = false ∧ k.mark.line = r.cursor.line)
    (hc : c.rest = '\n' :: (spaces n ++ rest)) (hline : r.cursor.line ≤ c.line)
    (hlt : c.rest.length < r.cursor.rest.length) (hrest : StartsToken rest) (keyAllowed : Bool) :
    EndsLine r { r.advance kind c with key, keyAllowed } kind rest n where
  isDone_eq := by simp [isDone, advance, push, hkind]
  kinds_eq := by simp [kinds, advance, push]
  levels_eq := rfl
  outerKeys_eq := houter
  length_lt := hlt
  exists_next := by
    refine ⟨c.past ('\n' :: spaces n), skipSpacing_newline keyAllowed hc hrest, ?_, ?_, fun k hk => ?_⟩
    · rw [Cursor.past_newline hc]
    · rw [Cursor.past_newline hc]
    · rw [Cursor.past_newline hc, (hkey k hk).2]
      exact ⟨(hkey k hk).1, Nat.lt_succ_of_le hline⟩
  length_le := by
    show rest.length ≤ c.rest.length
    rw [hc, List.length_cons, List.length_append]
    omega

/-- So it is if the token has taken the end of the line with it. -/
theorem endsLine_of_next {kind : TokenKind} {n : Nat} {c : Cursor} {key : Option KeyStart}
    (hkind : (kind == .streamEnd) = false) (houter : r.outerKeys = [])
    (hkey : ∀ k ∈ key, k.required = false ∧ k.mark.line = r.cursor.line)
    (hc : c.rest = rest) (hcolumn : c.column = n) (hline : r.cursor.line < c.line)
    (hlt : c.rest.length < r.cursor.rest.length) (hrest : StartsToken rest) :
    EndsLine r { r.advance kind c with key, keyAllowed := true } kind rest n where
  isDone_eq := by simp [isDone, advance, push, hkind]
  kinds_eq := by simp [kinds, advance, push]
  levels_eq := rfl
  outerKeys_eq := houter
  length_lt := hlt
  exists_next :=
    ⟨c, skipSpacing_spaces false true (show c.rest = spaces 0 ++ rest from hc) hrest, hc, hcolumn, fun k hk =>
      ⟨(hkey k hk).1, (hkey k hk).2 ▸ hline⟩⟩
  length_le := Nat.le_of_eq (congrArg List.length hc.symm)

/-- A key that may begin at a place. -/
def keyStart (s : Scan) : Option KeyStart :=
  if s.keyAllowed then some ⟨s.level == s.cursor.column + 1, s.count, s.cursor.index, s.cursor.mark⟩ else none

theorem markKey_eq (hkey : s.key = none) (houter : s.outerKeys = []) :
    s.markKey = some { s with key := s.keyStart } := by
  obtain ⟨cursor, tokens, count, levels, key, outerKeys, keyAllowed⟩ := s
  obtain rfl : key = none := hkey
  obtain rfl : outerKeys = [] := houter
  cases keyAllowed <;> simp [markKey, keyStart, dropKey, inFlow, level]

/-- Where something must not stand at the column of its collection, no key must begin. -/
theorem keyStart_lapses (h : s.level ≤ s.cursor.column) :
    ∀ k ∈ s.keyStart, k.required = false ∧ k.mark.line = s.cursor.line := by
  intro k hk
  rw [keyStart] at hk
  split at hk
  · cases hk
    exact ⟨by simpa using (by omega : s.level ≠ s.cursor.column + 1), rfl⟩
  · cases hk

/-! ### Which token begins with a character -/

theorem inFlow_eq_false (houter : s.outerKeys = []) : s.inFlow = false := by simp [inFlow, houter]

theorem takeToken_quote {quote : Quote} (h : s.cursor.rest = quote.char :: rest) :
    s.takeToken = s.takeQuoted quote := by
  rw [takeToken, h]
  cases quote <;> simp [Quote.char]

theorem takeToken_bar (h : s.cursor.rest = '|' :: rest) (houter : s.outerKeys = []) :
    s.takeToken = s.takeBlock .literal := by
  rw [takeToken, h]
  simp [inFlow_eq_false houter]

theorem takeToken_hyphen (h : s.cursor.rest = '-' :: ' ' :: rest) : s.takeToken = s.takeBlockEntry := by
  rw [takeToken, h]
  simp [atDelimiter, endsWord, isSpacing, isBlank]

theorem takeToken_colon (h : s.cursor.rest = ':' :: rest) (hrest : endsWord rest = true) :
    s.takeToken = s.takeValue := by
  rw [takeToken, h]
  simp [hrest]

theorem takeToken_open (h : s.cursor.rest = '[' :: rest) :
    s.takeToken = s.takeFlowStart .flowSequenceStart := by
  rw [takeToken, h]
  simp

theorem takeToken_close (h : s.cursor.rest = ']' :: rest) : s.takeToken = s.takeFlowEnd .flowSequenceEnd := by
  rw [takeToken, h]
  simp

/-- A character that begins a plain scalar at whatever column, and what follows it. -/
structure BeginsPlain (x : Char) (rest : List Char) : Prop where
  not_mem : x ∉ "-.#,[]{}&*!|>'\"%@`".toList
  not_spacing : isSpacing x = false
  not_endsWord : x = '?' ∨ x = ':' → endsWord rest = false

theorem BeginsPlain.append {x : Char} (h : BeginsPlain x rest) (more : List Char) : BeginsPlain x (rest ++ more) :=
  ⟨h.not_mem, h.not_spacing, fun hx => endsWord_append (h.not_endsWord hx) more⟩

theorem takeToken_plain {x : Char} (hx : BeginsPlain x rest) (h : s.cursor.rest = x :: rest)
    (houter : s.outerKeys = []) : s.takeToken = s.takePlain := by
  have hflow := inFlow_eq_false houter
  have hmem := hx.not_mem
  simp only [String.reduceToList, List.mem_cons, List.not_mem_nil, or_false, not_or] at hmem
  have hbegins : beginsPlain false x rest = true := by
    -- a question mark and a colon are signs only if spacing follows them
    by_cases hquestion : x = '?' ∨ x = ':'
    · have hword := hx.not_endsWord hquestion
      rcases hquestion with rfl | rfl <;> simp [beginsPlain, hword]
    · obtain ⟨h₁, h₂⟩ := not_or.mp hquestion
      simp [beginsPlain, hx.not_spacing, hmem, h₁, h₂]
  have hquestion : (x == '?' && endsWord rest) = false := by
    by_cases hx' : x = '?'
    · simp [hx.not_endsWord (.inl hx')]
    · simp [hx']
  have hcolon : (x == ':' && endsWord rest) = false := by
    by_cases hx' : x = ':'
    · simp [hx.not_endsWord (.inr hx')]
    · simp [hx']
  rw [takeToken, h]
  simp [hflow, hmem, hbegins, hquestion, hcolon]

/-! ### Scalars of each form -/

section Scalars

variable {text written : List Char} {n : Nat}

/-- A quoted scalar is taken with its quotes. -/
theorem takeQuoted_endsLine (quote : Quote) (hkey : r.key = none) (houter : r.outerKeys = [])
    (hlevel : r.level ≤ r.cursor.column) (h : r.cursor.rest = quote.char :: (written ++ '\n' :: (spaces n ++ rest)))
    (hreturn : ∀ x ∈ written, x ≠ '\r') (hrest : StartsToken rest)
    (hread : readQuoted quote (r.cursor.skip 1) = some (text, (r.cursor.skip 1).past written)) :
    ∃ t, r.takeToken = some t ∧ EndsLine r t (.scalar text .quoted) rest n := by
  have hskip : (r.cursor.skip 1).rest = written ++ '\n' :: (spaces n ++ rest) := by rw [Cursor.skip, h]; rfl
  have hafter := Cursor.rest_past hskip hreturn
  refine ⟨_, ?_, endsLine_of_newline rfl houter (keyStart_lapses hlevel) hafter
    (Cursor.line_le_past (r.cursor.skip 1) written) ?_ hrest false⟩
  · rw [takeToken_quote h, takeQuoted, markKey_eq hkey houter]
    simp only [bind, Option.bind_some, hread]
    rfl
  · rw [hafter, h]
    simp only [List.length_cons, List.length_append]
    omega

/-- A plain scalar is taken with the end of its line. -/
theorem takePlain_endsLine (hkey : r.key = none) (houter : r.outerKeys = []) (hlevel : r.level ≤ r.cursor.column)
    (hn : n < r.level) (hplain : IsPlain text) (hbegins : ∀ x xs, text = x :: xs → BeginsPlain x xs)
    (h : r.cursor.rest = text ++ '\n' :: (spaces n ++ rest)) (hreturn : ∀ x ∈ text, x ≠ '\r')
    (hrest : StartsToken rest) :
    ∃ t, r.takeToken = some t ∧ EndsLine r t (.scalar text .plain) rest n := by
  have hread : readPlain false ({ r with key := r.keyStart } : Scan).level ⟨[], false⟩ r.cursor =
      some ⟨text, true, r.cursor.past (text ++ '\n' :: spaces n)⟩ :=
    readPlain_of_isPlain hplain ⟨[], false⟩ h hrest.1 hn hlevel
  have hend := Cursor.rest_past h hreturn
  have hafter : r.cursor.past (text ++ '\n' :: spaces n) =
      ⟨rest, (r.cursor.past text).index + 1 + n, (r.cursor.past text).line + 1, n⟩ := by
    rw [Cursor.past_append, Cursor.past_newline hend]
  refine ⟨_, ?_, endsLine_of_next (c := r.cursor.past (text ++ '\n' :: spaces n)) rfl houter (keyStart_lapses hlevel)
    (by rw [hafter]) (by rw [hafter]) (Cursor.line_lt_past h hreturn _) ?_ hrest⟩
  · obtain ⟨x, xs, rfl⟩ := List.exists_cons_of_ne_nil hplain.ne_nil
    have hx := (hbegins x xs rfl).append ('\n' :: (spaces n ++ rest))
    have hflow := inFlow_eq_false (s := { r with key := r.keyStart }) houter
    rw [takeToken_plain hx h houter, takePlain, markKey_eq hkey houter]
    simp only [bind, Option.bind_some, hflow, hread]
    rfl
  · rw [hafter, h]
    simp only [List.length_cons, List.length_append]
    omega

/-- A literal block is taken with the end of its last line. -/
theorem takeBlock_endsLine (hkey : r.key = none) (houter : r.outerKeys = []) (hlevel : 0 < r.level)
    (hn : n ≤ r.level) (hne : text ≠ []) (hliteral : IsLiteral text)
    (h : r.cursor.rest = literalHeader text ++ '\n' ::
      (writeLines (r.level + 1) true text ++ (lineEnd text ++ (spaces n ++ rest))))
    (hrest : StartsToken rest) :
    ∃ t, r.takeToken = some t ∧ EndsLine r t (.scalar text .quoted) rest n := by
  rw [literalHeader_eq, List.cons_append, List.append_assoc] at h
  have hskip : (r.cursor.skip 1).rest = hintSign (hintOf text) ++ ((chompingOf text).sign ++ '\n' ::
      (writeLines (r.level + 1) true text ++ (lineEnd text ++ (spaces n ++ rest)))) := by
    rw [Cursor.skip, h]
    rfl
  have hread := readBlock_literal hne hliteral hrest.1 hlevel hn hskip
  obtain ⟨hafter, hcolumn, hline⟩ := past_literal hne hliteral hskip rfl
  have hflow := inFlow_eq_false houter
  have hnone : ∀ k ∈ (none : Option KeyStart), k.required = false ∧ k.mark.line = r.cursor.line := fun k hk => by
    cases hk
  refine ⟨_, ?_, endsLine_of_next rfl houter hnone hafter hcolumn hline ?_ hrest⟩
  · have hdrop : r.dropKey = some { r with key := none } := by simp [dropKey, hkey]
    have hread' : readBlock .literal ({ r with key := none } : Scan).level (r.cursor.skip 1) = _ := hread
    rw [takeToken_bar h houter, takeBlock, hdrop]
    simp only [bind, Option.bind_some, hread']
    rfl
  · rw [hafter, h]
    simp only [List.length_cons, List.length_append]
    omega

/-- Which style a text is written in. -/
def styleOf (text : List Char) : ScalarStyle := if formOf text = .plain then .plain else .quoted

/-- A text that is written plainly does not begin as anything else. -/
theorem beginsPlain_of_formOf {x : Char} {xs : List Char} (h : formOf (x :: xs) = .plain) : BeginsPlain x xs := by
  obtain ⟨hambiguous, hplain⟩ := formOf_eq_plain h
  have hstart := (IsPlain.of_allowsPlain (List.cons_ne_nil x xs) hplain).startsWord
  have hnumber : beginsAsNumber (x :: xs) = false := by
    simp only [isAmbiguous, Bool.or_eq_false_iff] at hambiguous
    exact hambiguous.2
  simp only [allowsPlain, hasIndicators, Bool.and_eq_true, Bool.not_eq_true', Bool.or_eq_false_iff] at hplain
  obtain ⟨-, -, ⟨hindicator, hword⟩, -⟩ := hplain
  refine ⟨fun hmem => ?_, startsWord_cons.mp hstart, fun hx => ?_⟩
  · simp only [beginsAsNumber, List.head?_cons, Option.any_some, Bool.or_eq_false_iff, beq_eq_false_iff_ne] at hnumber
    simp [isIndicator] at hindicator
    simp [hnumber, hindicator] at hmem
  · rcases hx with rfl | rfl <;> simpa using hword

theorem isLiteral_of_isPrintable (h : ∀ x ∈ text, isPrintable x = true) : IsLiteral text := by
  intro x hx
  refine ⟨ne_return_of_isPrintable (h x hx), ?_, fun hbreak => ?_⟩
  · rintro rfl
    exact absurd (h '\t' hx) (by decide)
  · by_cases hnewline : x = '\n'
    · rw [hnewline]
      rfl
    · rcases eq_of_isPrintable_of_isBreak (h x hx) hbreak hnewline with rfl | rfl <;> rfl

/-- **Scalars.** A text is taken as the scalar that it is written as, and then comes the next line. -/
theorem takeScalar_endsLine {text : String} (hr : r.At (writeScalar (r.level + 1) text ++ (spaces n ++ rest))
      column ks levels keyAllowed) (hlevel : 0 < r.level) (hn : n < r.level) (hcolumn : r.level ≤ column)
    (hrest : StartsToken rest) :
    ∃ t, r.takeToken = some t ∧ EndsLine r t (.scalar text.toList (styleOf text.toList)) rest n := by
  -- what is written is printable, so that there is no return in it and every line ends with one character
  have hprintable := isPrintable_writeScalar (r.level + 1) text
  have hrest_eq := hr.rest_eq
  have hlevel_le : r.level ≤ r.cursor.column := hr.column_eq ▸ hcolumn
  have hcolumn_pos : 0 < (r.cursor.skip 1).column := Nat.succ_pos _
  rw [writeScalar] at hrest_eq hprintable
  generalize text.toList = text at *
  cases hform : formOf text with
  | plain =>
    obtain ⟨hambiguous, hplain⟩ := formOf_eq_plain hform
    have hne : text ≠ [] := by
      rintro rfl
      exact absurd hambiguous (by decide)
    rw [hform, writeAs, List.append_assoc, List.singleton_append] at hrest_eq
    rw [styleOf, if_pos hform]
    refine takePlain_endsLine hr.key_eq hr.outerKeys_eq hlevel_le hn (.of_allowsPlain hne hplain) ?_ hrest_eq
      (fun x hx => ne_return_of_isPrintable (hprintable x (by simp [hform, writeAs, hx]))) hrest
    rintro x xs rfl
    exact beginsPlain_of_formOf hform
  | single =>
    obtain ⟨hnewline, hsingle⟩ := formOf_eq_single hform
    have hwritten : r.cursor.rest =
        '\'' :: (writeSingle (r.level + 1) false text ++ '\n' :: (spaces n ++ rest)) := by
      simpa [hform, writeAs] using hrest_eq
    rw [styleOf, if_neg (by simp [hform])]
    refine takeQuoted_endsLine .single hr.key_eq hr.outerKeys_eq hlevel_le hwritten
      (fun x hx => ne_return_of_isPrintable (hprintable x (by simp [hform, writeAs, hx]))) hrest ?_
    exact readQuoted_single hsingle (fun x hx => by rintro rfl; exact hnewline hx) (Nat.succ_pos _) hcolumn_pos
      (by rw [Cursor.skip, hwritten]; rfl) (by simp)
  | double =>
    have hwritten : r.cursor.rest =
        '"' :: ((text.flatMap writeEscaped ++ ['"']) ++ '\n' :: (spaces n ++ rest)) := by
      simpa [hform, writeAs] using hrest_eq
    rw [styleOf, if_neg (by simp [hform])]
    refine takeQuoted_endsLine .double hr.key_eq hr.outerKeys_eq hlevel_le hwritten
      (fun x hx => ne_return_of_isPrintable (hprintable x ?_)) hrest ?_
    · rw [hform, writeAs]
      simp only [List.mem_append, List.mem_cons] at hx ⊢
      tauto
    · have hskip : (r.cursor.skip 1).rest = text.flatMap writeEscaped ++ '"' :: '\n' :: (spaces n ++ rest) := by
        rw [Cursor.skip, hwritten]
        simp
      exact readQuoted_double hcolumn_pos hskip (by simp)
  | literal =>
    obtain ⟨hnewline, hliteral⟩ := formOf_eq_literal hform
    simp only [allowsLiteral, Bool.and_eq_true, List.all_eq_true] at hliteral
    have hwritten : r.cursor.rest = literalHeader text ++ '\n' ::
        (writeLines (r.level + 1) true text ++ (lineEnd text ++ (spaces n ++ rest))) := by
      simpa [hform, writeAs, lineEnd] using hrest_eq
    rw [styleOf, if_neg (by simp [hform])]
    exact takeBlock_endsLine hr.key_eq hr.outerKeys_eq hlevel (Nat.le_of_lt hn) (List.ne_nil_of_mem hnewline)
      (isLiteral_of_isPrintable hliteral.1.1) hwritten hrest

end Scalars

end

end Scan

end Fieldwise.Yaml
