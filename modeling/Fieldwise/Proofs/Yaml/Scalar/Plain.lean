import Fieldwise.Proofs.Yaml.Cursor

/-!
# Reading plain scalars back

A text that is written plainly consists of words with blanks between them (`IsPlain`). No word begins as a
comment or ends as a key, so that every word is read to its end, and the end of the line is the first place
where the scalar can end (`readPlain_of_isPlain`).
-/

namespace Fieldwise.Yaml

/-! ### Texts that are written plainly -/

/-- A text that reads as it is: it begins and ends with words, has nothing but blanks between them, and no
colon or number sign of it is set off by spacing. -/
structure IsPlain (text : List Char) : Prop where
  ne_nil : text ≠ []
  startsWord : StartsWord text
  not_comment : ∀ x ∈ text.head?, x ≠ '#'
  eq_space : ∀ x ∈ text, isSpacing x = true → x = ' '
  not_space_last : ∀ x ∈ text.getLast?, x ≠ ' '
  colon : ∀ pre post, text = pre ++ ':' :: post → endsWord post = false
  hash : ∀ pre x post, text = pre ++ x :: '#' :: post → isSpacing x = false

theorem endsWord_of_hasInnerIndicator {previous : Char} {pre post : List Char}
    (h : hasInnerIndicator previous (pre ++ ':' :: post) = false) : endsWord post = false := by
  induction pre generalizing previous with
  | nil =>
    simp only [List.nil_append, hasInnerIndicator, Bool.or_eq_false_iff] at h
    simpa using h.1.1
  | cons x pre ih =>
    simp only [List.cons_append, hasInnerIndicator, Bool.or_eq_false_iff] at h
    exact ih h.2

theorem isSpacing_of_hasInnerIndicator {previous x : Char} {pre post : List Char}
    (h : hasInnerIndicator previous (pre ++ x :: '#' :: post) = false) : isSpacing x = false := by
  induction pre generalizing previous with
  | nil =>
    simp only [List.nil_append, hasInnerIndicator, Bool.or_eq_false_iff] at h
    simpa using h.2.1.2
  | cons y pre ih =>
    simp only [List.cons_append, hasInnerIndicator, Bool.or_eq_false_iff] at h
    exact ih h.2

/-- A text without a sign of structure begins as a word and keeps its colons and number signs to itself. -/
theorem IsPlain.of_allowsPlain {text : List Char} (hne : text ≠ []) (h : allowsPlain text = true) :
    IsPlain text := by
  simp only [allowsPlain, Bool.and_eq_true, Bool.not_eq_true', List.all_eq_true, List.any_eq_false,
    Bool.not_eq_true] at h
  obtain ⟨⟨⟨⟨hprintable, hbreak⟩, hfirst⟩, hlast⟩, hindicators⟩ := h
  have hspace : ∀ x ∈ text, isSpacing x = true → x = ' ' := fun x hx =>
    eq_space_of_isPrintable (hprintable x hx) (hbreak x hx)
  obtain ⟨c, rest, rfl⟩ := List.exists_cons_of_ne_nil hne
  simp only [hasIndicators, Bool.or_eq_false_iff] at hindicators
  obtain ⟨-, ⟨hc, hword⟩, hinner⟩ := hindicators
  have hc' : c ≠ '#' := by
    rintro rfl
    simp [isIndicator] at hc
  -- nothing stands before the first character, so that any letter can be thought there
  have hinner' : hasInnerIndicator 'x' (c :: rest) = false := by
    simp only [hasInnerIndicator, Bool.or_eq_false_iff]
    refine ⟨⟨?_, by simp [hc']⟩, hinner⟩
    by_cases hcolon : c = ':'
    · subst hcolon
      simpa using hword
    · simp [hcolon]
  refine ⟨hne, fun x hx => ?_, fun x hx => ?_, hspace, fun x hx => ?_, fun pre post htext => ?_,
    fun pre x post htext => ?_⟩
  · rw [List.head?_cons, Option.mem_some] at hx
    subst hx
    by_contra hspacing
    rw [hspace _ List.mem_cons_self (by simpa using hspacing)] at hfirst
    simp [isSpace] at hfirst
  · rw [List.head?_cons, Option.mem_some] at hx
    exact hx ▸ hc'
  · rw [Option.mem_def.mp hx] at hlast
    simpa [isSpace] using hlast
  · exact endsWord_of_hasInnerIndicator (htext ▸ hinner')
  · exact isSpacing_of_hasInnerIndicator (htext ▸ hinner')

/-- What follows blanks in such a text is such a text. -/
theorem IsPlain.of_append {pre gap rest : List Char} (h : IsPlain (pre ++ (gap ++ rest))) (hgap : gap ≠ [])
    (hspaces : ∀ x ∈ gap, isSpacing x = true) (hrest : StartsWord rest) : IsPlain rest := by
  have hlast : ∀ x ∈ gap.getLast?, isSpacing x = true := fun x hx => hspaces x (List.mem_of_getLast? hx)
  have hne : rest ≠ [] := by
    rintro rfl
    obtain ⟨x, hx⟩ := Option.ne_none_iff_exists'.mp (mt List.getLast?_eq_none_iff.mp hgap)
    -- otherwise the text would end with a space
    refine h.not_space_last x (by simp [hx]) (h.eq_space x ?_ (hlast x hx))
    simp [List.mem_of_getLast? hx]
  refine ⟨hne, hrest, ?_, fun x hx => h.eq_space x (by simp [hx]), ?_, fun pre' post hrest' => ?_,
    fun pre' x post hrest' => ?_⟩
  · -- otherwise there would be a number sign behind spacing
    rintro x hx rfl
    obtain ⟨gap', y, rfl⟩ := (List.eq_nil_or_concat gap).resolve_left hgap
    obtain ⟨post, rfl⟩ : ∃ post, rest = '#' :: post := by
      cases rest with
      | nil => cases hx
      | cons z post =>
        cases hx
        exact ⟨post, rfl⟩
    have hy := h.hash (pre ++ gap') y post (by simp)
    rw [hspaces y (by simp)] at hy
    cases hy
  · intro x hx
    refine h.not_space_last x ?_
    simp [List.getLast?_append, Option.mem_def.mp hx]
  · exact h.colon (pre ++ (gap ++ pre')) post (by simp [hrest'])
  · exact h.hash (pre ++ (gap ++ pre')) x post (by simp [hrest'])

/-! ### Reading -/

theorem endsWord_append {text : List Char} (h : endsWord text = false) (rest : List Char) :
    endsWord (text ++ rest) = false := by
  cases text with
  | nil => cases h
  | cons x xs => exact h

/-- A word is read up to where no word goes on. -/
theorem plainWord_append {word rest : List Char} (hword : ∀ x ∈ word, isSpacing x = false)
    (hcolon : ∀ pre post, word = pre ++ ':' :: post → endsWord (post ++ rest) = false)
    (hrest : plainWord false rest = some []) : plainWord false (word ++ rest) = some word := by
  induction word with
  | nil => exact hrest
  | cons x word ih =>
    obtain ⟨hx, hword⟩ := List.forall_mem_cons.mp hword
    have htail := ih hword fun pre post hpre => hcolon (x :: pre) post (by rw [hpre, List.cons_append])
    have hends : (x == ':' && endsWord (word ++ rest)) = false := by
      by_cases hx : x = ':'
      · subst hx
        simpa using hcolon [] word rfl
      · simp [hx]
    simp only [List.cons_append, plainWord, hx, hends, htail, Bool.false_and, Bool.false_eq_true, if_false,
      Bool.or_self, Option.map_some]

theorem plainWord_of_spacing {rest : List Char} {x : Char} (hx : isSpacing x = true) (flow : Bool) :
    plainWord flow (x :: rest) = some [] := by
  simp [plainWord, hx]

/-- The first word of a text is read up to the spacing behind it. -/
theorem IsPlain.plainWord_eq {word more rest : List Char} (h : IsPlain (word ++ more))
    (hword : ∀ x ∈ word, isSpacing x = false) (hrest : (more ++ rest).head?.any isSpacing = true) :
    plainWord false (word ++ (more ++ rest)) = some word := by
  refine plainWord_append hword (fun pre post hpre => ?_) ?_
  · rw [← List.append_assoc]
    exact endsWord_append (h.colon pre _ (by simp [hpre])) rest
  · cases hmore : more ++ rest with
    | nil => simp [hmore] at hrest
    | cons x xs =>
      rw [hmore] at hrest
      exact plainWord_of_spacing (by simpa using hrest) false

theorem IsPlain.not_comment_append {text : List Char} (h : IsPlain text) (rest : List Char) :
    ∀ x ∈ (text ++ rest).head?, x ≠ '#' := by
  rw [List.head?_append_of_ne_nil _ h.ne_nil]
  exact h.not_comment

/-- Spacing does not come first. -/
theorem IsPlain.word_ne_nil {word gap rest : List Char} (h : IsPlain (word ++ (gap ++ rest))) (hgap : gap ≠ [])
    (hspaces : ∀ x ∈ gap, isSpacing x = true) : word ≠ [] := by
  rintro rfl
  obtain ⟨x, xs, rfl⟩ := List.exists_cons_of_ne_nil hgap
  cases (h.startsWord x rfl).symm.trans (hspaces x List.mem_cons_self)

theorem any_isSpacing_append {gap : List Char} (hne : gap ≠ []) (hspaces : ∀ x ∈ gap, isSpacing x = true)
    (rest : List Char) : (gap ++ rest).head?.any isSpacing = true := by
  obtain ⟨x, xs, rfl⟩ := List.exists_cons_of_ne_nil hne
  simpa using hspaces x List.mem_cons_self

/-! ### The whole scalar -/

section

variable {indent n : Nat} {rest : List Char}

/-- Where no document ends and no comment begins there is a word, and what follows it decides. -/
theorem readPlain_eq {c : Cursor} {word : List Char} {gap : Gap} (hcolumn : 0 < c.column)
    (hcomment : ∀ x ∈ c.rest.head?, x ≠ '#') (hword : plainWord false c.rest = some word)
    (hne : word ≠ []) {after : Cursor} (hafter : c.skip word.length = after)
    (hspacing : after.rest.head?.any isSpacing = true) {gap' : Gap} {next : Cursor}
    (hgap : readGap indent after = some (gap', next)) :
    readPlain false indent gap c =
      if next.column < indent then some ⟨gap.text ++ word, gap'.broken, next⟩
      else (readPlain false indent gap' next).map fun p => { p with text := gap.text ++ word ++ p.text } := by
  subst hafter
  have hstart : ¬((c.column = 0 ∧ atDelimiter c.rest) ∨ c.isAt '#' = true) := by
    rw [isAt_eq_false hcomment]
    simp only [Bool.false_eq_true, or_false, not_and]
    omega
  -- the reader recurses on what it matches and keeps the equations, so that its cases are gone through one by
  -- one and cannot be rewritten with what is known
  rw [readPlain, if_neg hstart]
  split
  · rename_i hnone
    rw [hnone] at hword
    cases hword
  · rename_i word' hword'
    obtain rfl := Option.some.inj (hword'.symm.trans hword)
    simp only []
    rw [dif_pos hspacing]
    split
    · rename_i hnone
      rw [hnone] at hgap
      cases hgap
    · rename_i gap'' next' hgap'
      obtain ⟨rfl, rfl⟩ := Prod.mk.inj (Option.some.inj (hgap'.symm.trans hgap))
      simp [List.isEmpty_eq_false_iff.mpr hne]

/-- A word that no spacing follows is the whole scalar. -/
theorem readPlain_word {c : Cursor} {word : List Char} (gap : Gap) (hstart : atDelimiter c.rest = false)
    (hcomment : ∀ x ∈ c.rest.head?, x ≠ '#') (hword : plainWord false c.rest = some word) (hne : word ≠ [])
    (hend : (c.skip word.length).rest.head?.any isSpacing = false) :
    readPlain false indent gap c = some ⟨gap.text ++ word, false, c.skip word.length⟩ := by
  rw [readPlain, if_neg (by simp [hstart, isAt_eq_false hcomment])]
  split
  · rename_i hnone
    cases hnone.symm.trans hword
  · rename_i word' hword'
    obtain rfl := Option.some.inj (hword'.symm.trans hword)
    simp only []
    rw [dif_neg (by simp [hend])]
    simp [List.isEmpty_eq_false_iff.mpr hne]

/-- **Plain scalars.** A text that is written plainly is read as it is, up to a line that is indented less. -/
theorem readPlain_of_isPlain {text : List Char} (hplain : IsPlain text) {c : Cursor} (gap : Gap)
    (h : c.rest = text ++ '\n' :: (spaces n ++ rest)) (hrest : StartsWord rest) (hn : n < indent)
    (hcolumn : indent ≤ c.column) :
    readPlain false indent gap c = some ⟨gap.text ++ text, true, c.past (text ++ '\n' :: spaces n)⟩ := by
  -- word by word: the column only grows on the line, so that nothing but its end can end the scalar
  induction text using pieces_induction (p := isSpacing) generalizing c gap with
  | last word hword =>
    have hbreak : ∀ x ∈ word, isBreak x = false := fun x hx => isBreak_of_not_spacing (hword x hx)
    have hread : plainWord false c.rest = some word := by
      rw [h]
      rw [← List.append_nil word] at hplain
      exact hplain.plainWord_eq hword rfl
    have hafter : (c.past word).rest = ['\n'] ++ (spaces n ++ rest) :=
      Cursor.rest_past h fun x hx => ne_return_of_not_break (hbreak x hx)
    have hgap := readGap_breaks indent hafter hrest (List.cons_ne_nil _ _) (by simp [isBreak]) (by simp)
    have hnext : ((c.past word).past ('\n' :: spaces n)).column < indent := by
      rw [Cursor.past_newline hafter]
      exact hn
    rw [readPlain_eq (by omega) (h ▸ hplain.not_comment_append _) hread hplain.ne_nil (Cursor.past_eq_skip hbreak).symm
      (by rw [hafter]; rfl) hgap, List.singleton_append, if_pos hnext, Cursor.past_append]
  | more word blanks text hword hne hblanks htext ih =>
    have htail : IsPlain text := hplain.of_append hne hblanks htext
    have hbreak : ∀ x ∈ word, isBreak x = false := fun x hx => isBreak_of_not_spacing (hword x hx)
    have hspaces : blanks = spaces blanks.length :=
      eq_spaces fun x hx => hplain.eq_space x (by simp [hx]) (hblanks x hx)
    have hread : plainWord false c.rest = some word := by
      rw [h, List.append_assoc]
      refine hplain.plainWord_eq hword ?_
      rw [List.append_assoc]
      exact any_isSpacing_append hne hblanks _
    have hafter : (c.past word).rest = spaces blanks.length ++ (text ++ '\n' :: (spaces n ++ rest)) := by
      rw [← hspaces]
      exact Cursor.rest_past (by rw [h]; simp) fun x hx => ne_return_of_not_break (hbreak x hx)
    have hgap := readGap_spaces indent hafter (htail.startsWord.append htail.ne_nil _)
    have hcolumn' : indent ≤ ((c.past word).past (spaces blanks.length)).column := by
      rw [Cursor.column_past isBreak_of_mem_spaces, Cursor.column_past hbreak]
      omega
    have hspacing : (c.past word).rest.head?.any isSpacing = true := by
      rw [hafter, ← hspaces]
      exact any_isSpacing_append hne hblanks _
    rw [readPlain_eq (by omega) (h ▸ hplain.not_comment_append _) hread (hplain.word_ne_nil hne hblanks)
      (Cursor.past_eq_skip hbreak).symm hspacing hgap, if_neg (by omega),
      ih htail _ (Cursor.rest_past_spaces hafter) hcolumn', ← hspaces]
    simp only [Option.map_some, List.append_assoc, Cursor.past_append]

end

end Fieldwise.Yaml
