import Fieldwise.Proofs.Yaml.Cursor
import Mathlib

/-!
# Reading quoted scalars back

Between quotes a text is written character by character, and each of them is read back from what it is
written as (`ReadsChar`): as itself, as two quotes or as an escape. `Quoted` relates a text to what is
written of it up to the closing quote; what is related is read back (`readQuoted_of_quoted`), and the
writers of both kinds of quotes keep to the relation.
-/

namespace Fieldwise.Yaml

/-! ### Characters -/

/-- A character is read back from what it is written as, wherever that stands. -/
structure ReadsChar (quote : Quote) (write : Char → List Char) (x : Char) : Prop where
  ne_return : ∀ y ∈ write x, y ≠ '\r'
  readWord_eq : ∀ (c : Cursor) (rest : List Char), c.rest = write x ++ rest →
    readWord quote c = (readWord quote (c.past (write x))).map fun (text, r) => (x :: text, r)

section Words

variable {quote : Quote} {write : Char → List Char} {c : Cursor} {word rest : List Char}

theorem readWord_of_spacing (h : c.rest.head?.any isSpacing = true) :
    readWord quote c = some ([], .plain, c) := by
  rw [readWord]
  split
  · rfl
  · rename_i x xs hx
    rw [hx] at h
    rw [if_pos (by simpa using h)]

theorem not_spacing_quote (quote : Quote) : isSpacing quote.char = false := by cases quote <;> rfl

theorem readWord_of_quote (h : c.rest = quote.char :: rest) (hrest : rest.head? ≠ some quote.char) :
    readWord quote c = some ([], .plain, c) := by
  rw [readWord]
  split
  · rfl
  · rename_i x xs hx
    obtain ⟨rfl, rfl⟩ := List.cons.inj (hx.symm.trans h)
    rw [if_neg (by simp [not_spacing_quote]), if_pos rfl, if_neg]
    rintro ⟨rfl, hquote⟩
    exact hrest hquote

/-- A word is read character by character, up to where a word ends. -/
theorem readWord_flatMap (hword : ∀ x ∈ word, ReadsChar quote write x) (h : c.rest = word.flatMap write ++ rest)
    (hstop : ∀ c' : Cursor, c'.rest = rest → readWord quote c' = some ([], .plain, c')) :
    readWord quote c = some (word, .plain, c.past (word.flatMap write)) := by
  induction word generalizing c with
  | nil => exact hstop c h
  | cons x word ih =>
    obtain ⟨hx, hword⟩ := List.forall_mem_cons.mp hword
    rw [List.flatMap_cons, List.append_assoc] at h
    rw [hx.readWord_eq c _ h, ih hword (Cursor.rest_past h hx.ne_return), List.flatMap_cons, Cursor.past_append]
    rfl

theorem flatMap_ne_return (hword : ∀ x ∈ word, ReadsChar quote write x) :
    ∀ y ∈ word.flatMap write, y ≠ '\r' := by
  intro y hy
  obtain ⟨x, hx, hy⟩ := List.mem_flatMap.mp hy
  exact (hword x hx).ne_return y hy

end Words

/-! ### What a character can be written as -/

section Forms

variable {quote : Quote} {write : Char → List Char} {x letter : Char} {digits : List Char}

/-- A character that means nothing else is read as itself. -/
theorem ReadsChar.of_self (hwrite : write x = [x]) (hspacing : isSpacing x = false) (hquote : x ≠ quote.char)
    (hescape : ¬(quote = .double ∧ x = '\\')) : ReadsChar quote write x := by
  have hbreak := isBreak_of_not_spacing hspacing
  refine ⟨by simpa [hwrite] using ne_return_of_not_break hbreak, fun c rest h => ?_⟩
  rw [hwrite, List.singleton_append] at h
  rw [hwrite, Cursor.past_cons, Cursor.pass_of_not_break hbreak, Cursor.past_nil, readWord]
  split
  · rename_i hnil
    cases hnil.symm.trans h
  · rename_i y ys hy
    obtain ⟨rfl, rfl⟩ := List.cons.inj (hy.symm.trans h)
    rw [if_neg (by simp [hspacing]), if_neg hquote, if_neg hescape]

/-- Two single quotes are read as one. -/
theorem ReadsChar.of_doubled (hwrite : write '\'' = ['\'', '\'']) : ReadsChar .single write '\'' := by
  refine ⟨by simp [hwrite], fun c rest h => ?_⟩
  have hover : c.past ['\'', '\''] = c.skip 2 := Cursor.past_eq_skip (by simp [isBreak])
  rw [hwrite, List.cons_append, List.singleton_append] at h
  rw [hwrite, hover, readWord]
  split
  · rename_i hnil
    cases hnil.symm.trans h
  · rename_i y ys hy
    obtain ⟨rfl, rfl⟩ := List.cons.inj (hy.symm.trans h)
    rw [if_neg (by decide), if_pos (show '\'' = Quote.single.char from rfl), if_pos ⟨rfl, rfl⟩]

/-- An escape is read as the character that it stands for. -/
theorem ReadsChar.of_escape (hwrite : write x = '\\' :: letter :: digits)
    (hbreak : ∀ y ∈ letter :: digits, isBreak y = false)
    (h : ∀ rest, unescape? letter (digits ++ rest) = some (x, digits.length + 1)) :
    ReadsChar .double write x := by
  have hbreak' : ∀ y ∈ '\\' :: letter :: digits, isBreak y = false := List.forall_mem_cons.mpr ⟨rfl, hbreak⟩
  refine ⟨fun y hy => ne_return_of_not_break (hbreak' y (hwrite ▸ hy)), fun c rest hc => ?_⟩
  rw [hwrite] at hc
  rw [hwrite, Cursor.past_eq_skip hbreak', readWord]
  split
  · rename_i hnil
    cases hnil.symm.trans hc
  · rename_i y ys hy
    obtain ⟨rfl, rfl⟩ := List.cons.inj (hy.symm.trans hc)
    rw [if_neg (by decide), if_neg (by decide), if_pos ⟨rfl, rfl⟩,
      if_neg (by simp [hbreak letter List.mem_cons_self])]
    simp only [List.cons_append, List.append_eq, h rest]
    rw [List.length_cons, List.length_cons, Nat.add_comm 1]

end Forms

/-! ### Texts between quotes -/

/-- How a text can be written up to the closing quote: as a word, or as a word and the rest of the text, with
blanks or with breaks and indentation between them. Of the breaks only those count that stand for
themselves. -/
inductive Quoted (quote : Quote) (write : Char → List Char) (indent : Nat) : List Char → List Char → Prop where
  | last {word : List Char} (hword : ∀ x ∈ word, ReadsChar quote write x) :
    Quoted quote write indent word (word.flatMap write ++ [quote.char])
  | blanks {word text written : List Char} {n : Nat} (hword : ∀ x ∈ word, ReadsChar quote write x)
    (hn : 0 < n) (hstart : StartsWord written) (h : Quoted quote write indent text written) :
    Quoted quote write indent (word ++ (spaces n ++ text)) (word.flatMap write ++ (spaces n ++ written))
  | breaks {word breaks text written : List Char} (hword : ∀ x ∈ word, ReadsChar quote write x)
    (hne : breaks ≠ []) (hbreaks : ∀ x ∈ breaks, x = '\u2028' ∨ x = '\u2029') (hstart : StartsWord written)
    (h : Quoted quote write indent text written) :
    Quoted quote write indent (word ++ (breaks ++ text))
      (word.flatMap write ++ (breaks ++ (spaces indent ++ written)))

section Reading

variable {quote : Quote} {write : Char → List Char} {indent : Nat} {c after next : Cursor}
variable {word rest : List Char}

/-- Behind a word the closing quote is taken off, or the gap, and the rest is read from there on. -/
theorem readQuoted_of_readWord {e : WordEnd} (hcolumn : 0 < c.column) (hne : c.rest ≠ [])
    (hword : readWord quote c = some (word, e, after)) :
    readQuoted quote c =
      if after.isAt quote.char then some (word, after.skip 1)
      else (readQuotedGap e after).bind fun gap =>
        (readQuoted quote gap.2).map fun text => (word ++ gap.1 ++ text.1, text.2) := by
  rw [readQuoted, dif_neg (by simp [hne, Nat.ne_of_gt hcolumn])]
  split
  · rename_i hnone
    cases hnone.symm.trans hword
  · rename_i word' e' after' hword'
    obtain ⟨rfl, h'⟩ := Prod.mk.inj (Option.some.inj (hword'.symm.trans hword))
    obtain ⟨rfl, rfl⟩ := Prod.mk.inj h'
    by_cases hquote : after'.isAt quote.char = true
    · rw [dif_pos hquote, if_pos hquote]
    · rw [dif_neg hquote, if_neg hquote]
      split
      · rename_i hgap
        rw [hgap]
        rfl
      · rename_i gap next hgap
        rw [hgap]
        rfl

theorem readQuoted_close (hcolumn : 0 < c.column) (hne : c.rest ≠ [])
    (hword : readWord quote c = some (word, .plain, after)) (h : after.isAt quote.char = true) :
    readQuoted quote c = some (word, after.skip 1) := by
  rw [readQuoted_of_readWord hcolumn hne hword, if_pos h]

theorem readQuoted_gap {gap : Gap} (hcolumn : 0 < c.column) (hne : c.rest ≠ [])
    (hword : readWord quote c = some (word, .plain, after)) (h : after.isAt quote.char = false)
    (hgap : readGap 0 after = some (gap, next)) :
    readQuoted quote c =
      (readQuoted quote next).map fun (text, c) => (word ++ gap.text ++ text, c) := by
  have hgap' : readQuotedGap .plain after = some (gap.text, next) := by
    rw [readQuotedGap, hgap]
    rfl
  rw [readQuoted_of_readWord hcolumn hne hword, if_neg (by simp [h]), hgap']
  rfl

/-- Breaks that stand for themselves are not folded. -/
theorem foldBreaks_eq {breaks : List Char} (hne : breaks ≠ [])
    (hbreaks : ∀ x ∈ breaks, x = '\u2028' ∨ x = '\u2029') : foldBreaks (breaks.map breakValue) = breaks := by
  -- only a newline is folded, and these breaks do not count as newlines
  have hvalue : breaks.map breakValue = breaks := by
    refine (List.map_congr_left fun x hx => ?_).trans (List.map_id breaks)
    rcases hbreaks x hx with rfl | rfl <;> rfl
  obtain ⟨b, bs, rfl⟩ := List.exists_cons_of_ne_nil hne
  have hb : b ≠ '\n' := by
    rintro rfl
    simpa using hbreaks _ List.mem_cons_self
  rw [hvalue, foldBreaks, if_pos hb]

theorem Quoted.ne_nil {text written : List Char} (h : Quoted quote write indent text written) :
    written ≠ [] := by
  cases h with
  | last hword => simp
  | blanks hword hn => simp [spaces, Nat.ne_of_gt hn]
  | breaks hword hne => simp [hne]

/-- Where a word is followed by what starts no word, no quote closes the scalar. -/
theorem isAt_quote_of_spacing (h : c.rest.head?.any isSpacing = true) : c.isAt quote.char = false := by
  refine isAt_eq_false fun y hy => ?_
  rintro rfl
  rw [Option.mem_def.mp hy, Option.any_some, not_spacing_quote] at h
  cases h

/-- A word that spacing follows is read, and the reading goes on behind the spacing. -/
theorem readQuoted_word {gap : Gap} (hcolumn : 0 < c.column) (hword : ∀ x ∈ word, ReadsChar quote write x)
    (h : c.rest = word.flatMap write ++ rest) (hspacing : rest.head?.any isSpacing = true)
    (hgap : readGap 0 (c.past (word.flatMap write)) = some (gap, next)) :
    readQuoted quote c =
      (readQuoted quote next).map fun (text, c) => (word ++ gap.text ++ text, c) := by
  have hafter : (c.past (word.flatMap write)).rest = rest := Cursor.rest_past h (flatMap_ne_return hword)
  have hne : c.rest ≠ [] := by
    rw [h]
    intro hnil
    rw [(List.append_eq_nil_iff.mp hnil).2] at hspacing
    cases hspacing
  refine readQuoted_gap hcolumn hne ?_ (isAt_quote_of_spacing (hafter ▸ hspacing)) hgap
  exact readWord_flatMap hword h fun c' hc' => readWord_of_spacing (hc' ▸ hspacing)

/-- **Quoted scalars.** A text is read back from what it can be written as, up to and with the closing
quote. -/
theorem readQuoted_of_quoted {text written : List Char} (h : Quoted quote write indent text written)
    (hindent : 0 < indent) (hc : c.rest = written ++ rest) (hrest : rest.head? ≠ some quote.char)
    (hcolumn : 0 < c.column) : readQuoted quote c = some (text, c.past written) := by
  induction h generalizing c with
  | @last word hword =>
    rw [List.append_assoc] at hc
    have hafter := Cursor.rest_past hc (flatMap_ne_return hword)
    have hread : readWord quote c = some (word, .plain, c.past (word.flatMap write)) :=
      readWord_flatMap hword hc fun c' hc' => readWord_of_quote hc' hrest
    have hat : (c.past (word.flatMap write)).isAt quote.char = true := by
      rw [Cursor.isAt, Cursor.next?, hafter]
      simp
    rw [readQuoted_close hcolumn (by simp [hc]) hread hat, Cursor.past_append, Cursor.past_cons,
      Cursor.pass_of_not_break (isBreak_of_not_spacing (not_spacing_quote quote)), Cursor.past_nil]
  | @blanks word text written n hword hn hstart h ih =>
    rw [List.append_assoc, List.append_assoc] at hc
    have hafter := Cursor.rest_past hc (flatMap_ne_return hword)
    have hspacing : (spaces n ++ (written ++ rest)).head?.any isSpacing = true := by
      obtain ⟨n, rfl⟩ := Nat.exists_eq_add_one.mpr hn
      rfl
    have hgap := readGap_spaces 0 hafter (hstart.append h.ne_nil rest)
    have hcolumn' : 0 < ((c.past (word.flatMap write)).past (spaces n)).column := by
      rw [Cursor.column_past isBreak_of_mem_spaces, length_spaces]
      omega
    rw [readQuoted_word hcolumn hword hc hspacing hgap, ih (Cursor.rest_past_spaces hafter) hcolumn']
    simp only [Option.map_some, Cursor.past_append, List.append_assoc]
  | @breaks word breaks text written hword hne hbreaks hstart h ih =>
    simp only [List.append_assoc] at hc
    have hafter := Cursor.rest_past hc (flatMap_ne_return hword)
    have hbreak : ∀ x ∈ breaks, isBreak x = true := fun x hx => by
      rcases hbreaks x hx with rfl | rfl <;> rfl
    have hreturn : ∀ x ∈ breaks, x ≠ '\r' := fun x hx => by
      rcases hbreaks x hx with rfl | rfl <;> decide
    have hspacing : (breaks ++ (spaces indent ++ (written ++ rest))).head?.any isSpacing = true := by
      obtain ⟨b, bs, rfl⟩ := List.exists_cons_of_ne_nil hne
      simp [isSpacing, hbreak b List.mem_cons_self]
    have hgap := readGap_breaks 0 hafter (hstart.append h.ne_nil rest) hne hbreak hreturn
    have hindented := Cursor.rest_past hafter hreturn
    -- at the beginning of a line a document could end, but the next word is indented
    have hcolumn' : 0 < ((c.past (word.flatMap write)).past (breaks ++ spaces indent)).column := by
      rw [Cursor.past_append, Cursor.column_past isBreak_of_mem_spaces, length_spaces]
      omega
    have hnext : ((c.past (word.flatMap write)).past (breaks ++ spaces indent)).rest = written ++ rest := by
      rw [Cursor.past_append]
      exact Cursor.rest_past_spaces hindented
    rw [readQuoted_word hcolumn hword hc hspacing hgap, ih hnext hcolumn', foldBreaks_eq hne hbreaks]
    simp only [Option.map_some, Cursor.past_append, List.append_assoc]

end Reading

theorem flatMap_spaces {write : Char → List Char} (hwrite : write ' ' = [' ']) (n : Nat) :
    (spaces n).flatMap write = spaces n := by
  induction n with
  | zero => rfl
  | succ n ih => rw [spaces_succ, List.flatMap_cons, ih, hwrite, List.singleton_append]

/-! ### Single quotes -/

/-- A character between single quotes. -/
def writeDoubled (x : Char) : List Char := if x = '\'' then ['\'', '\''] else [x]

theorem readsChar_doubled {x : Char} (hx : isSpacing x = false) : ReadsChar .single writeDoubled x := by
  by_cases hquote : x = '\''
  · subst hquote
    exact .of_doubled rfl
  · exact .of_self (if_neg hquote) hx hquote (by simp)

section Single

variable {indent : Nat} {broken : Bool} {word breaks rest : List Char}

theorem writeSingle_cons {x : Char} (hx : isBreak x = false) (rest : List Char) :
    writeSingle indent false (x :: rest) = writeDoubled x ++ writeSingle indent false rest := by
  rw [writeSingle, if_neg (by simp [hx]), if_neg Bool.false_ne_true, List.nil_append]
  rfl

/-- A line is written character by character. -/
theorem writeSingle_word (hword : ∀ x ∈ word, isBreak x = false) :
    writeSingle indent false (word ++ rest) = word.flatMap writeDoubled ++ writeSingle indent false rest := by
  induction word with
  | nil => rfl
  | cons x word ih =>
    obtain ⟨hx, hword⟩ := List.forall_mem_cons.mp hword
    rw [List.cons_append, writeSingle_cons hx, ih hword, List.flatMap_cons, List.append_assoc]

/-- A line that begins is indented. -/
theorem writeSingle_line (hrest : ∀ x ∈ rest.head?, isBreak x = false) :
    writeSingle indent true rest = spaces indent ++ writeSingle indent false rest := by
  cases rest with
  | nil => rfl
  | cons x rest => simp [writeSingle, hrest x rfl]

theorem writeSingle_breaks (hbreaks : ∀ x ∈ breaks, isBreak x = true) :
    writeSingle indent true (breaks ++ rest) = breaks ++ writeSingle indent true rest := by
  induction breaks with
  | nil => rfl
  | cons x breaks ih =>
    obtain ⟨hx, hbreaks⟩ := List.forall_mem_cons.mp hbreaks
    rw [List.cons_append, writeSingle, if_pos hx, ih hbreaks, List.cons_append]

/-- What is written of a text begins as a word if the text does. -/
theorem startsWord_writeSingle {text : List Char} (h : StartsWord text) :
    StartsWord (writeSingle indent false text) := by
  cases text with
  | nil => exact startsWord_cons.mpr rfl
  | cons x text =>
    have hx : isSpacing x = false := startsWord_cons.mp h
    rw [writeSingle_cons (isBreak_of_not_spacing hx), writeDoubled]
    split_ifs
    · exact startsWord_cons.mpr rfl
    · exact startsWord_cons.mpr hx

end Single

/-- Spaces and breaks do not meet. -/
def Apart (a b : Char) : Prop := isSpacing a = true → isSpacing b = true → isBreak a = isBreak b

theorem isChain_apart {text : List Char} (hprintable : ∀ x ∈ text, isPrintable x = true)
    (hbreak : hasAdjacent isBreak isSpace text = false) (hspace : hasAdjacent isSpace isBreak text = false) :
    text.IsChain Apart := by
  induction text with
  | nil => exact .nil
  | cons a text ih =>
    cases text with
    | nil => exact .singleton a
    | cons b text =>
      obtain ⟨ha, htext⟩ := List.forall_mem_cons.mp hprintable
      have hb := htext b List.mem_cons_self
      rw [hasAdjacent, Bool.or_eq_false_iff] at hbreak hspace
      refine List.isChain_cons_cons.mpr ⟨fun hsa hsb => ?_, ih htext hbreak.2 hspace.2⟩
      cases hba : isBreak a <;> cases hbb : isBreak b
      · rfl
      · rw [eq_space_of_isPrintable ha hba hsa, hbb] at hspace
        exact absurd hspace.1 (by decide)
      · rw [eq_space_of_isPrintable hb hbb hsb, hba] at hbreak
        exact absurd hbreak.1 (by decide)
      · rfl

/-- So spacing is of one kind. -/
theorem isBreak_eq_of_isChain {gap : List Char} {a : Char} (hchain : (a :: gap).IsChain Apart)
    (hgap : ∀ x ∈ a :: gap, isSpacing x = true) : ∀ x ∈ a :: gap, isBreak x = isBreak a := by
  induction gap generalizing a with
  | nil => simp
  | cons b gap ih =>
    obtain ⟨hab, hchain⟩ := List.isChain_cons_cons.mp hchain
    obtain ⟨ha, hgap⟩ := List.forall_mem_cons.mp hgap
    have heq := hab ha (hgap b List.mem_cons_self)
    refine List.forall_mem_cons.mpr ⟨rfl, fun x hx => ?_⟩
    rw [heq, ih hchain hgap x hx]

/-- What is printed as a break stands for itself, but for the newline. -/
theorem eq_of_isPrintable_of_isBreak {x : Char} (h : isPrintable x = true) (hbreak : isBreak x = true)
    (hx : x ≠ '\n') : x = '\u2028' ∨ x = '\u2029' := by
  simp only [isBreak, Bool.or_eq_true, beq_iff_eq] at hbreak
  rcases hbreak with (((rfl | rfl) | rfl) | rfl) | rfl
  · exact absurd rfl hx
  · exact absurd h (by decide)
  · exact absurd h (by decide)
  · exact .inl rfl
  · exact .inr rfl

/-- A text can be written between single quotes if spaces and breaks do not meet in it. -/
theorem quoted_writeSingle {indent : Nat} {text : List Char} (hprintable : ∀ x ∈ text, isPrintable x = true)
    (hchain : text.IsChain Apart) (hnewline : ∀ x ∈ text, x ≠ '\n') :
    Quoted .single writeDoubled indent text (writeSingle indent false text) := by
  induction text using pieces_induction (p := isSpacing) with
  | last word hword =>
    have hwrite := @writeSingle_word indent word [] fun x hx => isBreak_of_not_spacing (hword x hx)
    rw [List.append_nil] at hwrite
    rw [hwrite]
    exact .last fun x hx => readsChar_doubled (hword x hx)
  | more word gap text hword hne hgap htext ih =>
    obtain ⟨hgap_printable, htext_printable⟩ :=
      List.forall_mem_append.mp (List.forall_mem_append.mp hprintable).2
    obtain ⟨hgap_newline, htext_newline⟩ := List.forall_mem_append.mp (List.forall_mem_append.mp hnewline).2
    obtain ⟨hgap_chain, htext_chain, -⟩ := List.isChain_append.mp (List.isChain_append.mp hchain).2.1
    have hrest := ih htext_printable htext_chain htext_newline
    have hdoubled : ∀ x ∈ word, ReadsChar .single writeDoubled x := fun x hx => readsChar_doubled (hword x hx)
    obtain ⟨b, bs, rfl⟩ := List.exists_cons_of_ne_nil hne
    -- a gap consists either of breaks, behind which the next line is indented, or of spaces
    have hkind := isBreak_eq_of_isChain hgap_chain hgap
    rw [writeSingle_word fun x hx => isBreak_of_not_spacing (hword x hx)]
    cases hb : isBreak b with
    | true =>
      have hbreaks : ∀ x ∈ b :: bs, isBreak x = true := fun x hx => (hkind x hx).trans hb
      have hwrite : writeSingle indent false (b :: bs ++ text) =
          b :: bs ++ (spaces indent ++ writeSingle indent false text) := by
        rw [List.cons_append, writeSingle, if_pos hb,
          writeSingle_breaks fun x hx => hbreaks x (List.mem_cons_of_mem b hx),
          writeSingle_line fun x hx => isBreak_of_not_spacing (htext x hx), List.cons_append]
      rw [hwrite]
      exact .breaks hdoubled hne (fun x hx =>
        eq_of_isPrintable_of_isBreak (hgap_printable x hx) (hbreaks x hx) (hgap_newline x hx))
        (startsWord_writeSingle htext) hrest
    | false =>
      have hspaces : b :: bs = spaces (bs.length + 1) := eq_spaces fun x hx =>
        eq_space_of_isPrintable (hgap_printable x hx) ((hkind x hx).trans hb) (hgap x hx)
      rw [hspaces, writeSingle_word isBreak_of_mem_spaces, flatMap_spaces rfl (bs.length + 1)]
      exact .blanks hdoubled (Nat.succ_pos _) (startsWord_writeSingle htext) hrest

/-- Between single quotes a text is read back if it can be written there and has no newline. -/
theorem readQuoted_single {c : Cursor} {text rest : List Char} {indent : Nat} (h : allowsSingle text = true)
    (hnewline : ∀ x ∈ text, x ≠ '\n') (hindent : 0 < indent) (hcolumn : 0 < c.column)
    (hc : c.rest = writeSingle indent false text ++ rest) (hrest : rest.head? ≠ some '\'') :
    readQuoted .single c = some (text, c.past (writeSingle indent false text)) := by
  simp only [allowsSingle, Bool.and_eq_true, Bool.not_eq_true', List.all_eq_true] at h
  exact readQuoted_of_quoted (quoted_writeSingle h.1.1 (isChain_apart h.1.1 h.1.2 h.2) hnewline) hindent hc hrest
    hcolumn

/-! ### Double quotes -/

theorem digitValue?_upperDigit : ∀ n < 16, Hex.digitValue? (upperDigit n) = some n := by decide

theorem isBreak_upperDigit : ∀ n < 16, isBreak (upperDigit n) = false := by decide

@[simp] theorem length_hexOfWidth (n width : Nat) : (hexOfWidth n width).length = width := by
  induction width generalizing n with
  | zero => rfl
  | succ width ih => simp [hexOfWidth, ih]

/-- The digits of a number are read back as the number. -/
theorem hexNumber?_hexOfWidth {n width : Nat} (h : n < 16 ^ width) :
    hexNumber? (hexOfWidth n width) = some n := by
  induction width generalizing n with
  | zero =>
    obtain rfl : n = 0 := by simpa using h
    rfl
  | succ width ih =>
    have hdigits := ih (n := n / 16) (by omega)
    have hlast := digitValue?_upperDigit (n % 16) (Nat.mod_lt n (by decide))
    have hnumber : n / 16 * 16 + n % 16 = n := Nat.div_add_mod' n 16
    rw [hexNumber?] at hdigits ⊢
    rw [hexOfWidth, List.foldlM_append, hdigits]
    simp [hlast, hnumber]

theorem isBreak_hexOfWidth (n width : Nat) : ∀ x ∈ hexOfWidth n width, isBreak x = false := by
  induction width generalizing n with
  | zero => nofun
  | succ width ih =>
    rw [hexOfWidth]
    exact List.forall_mem_append.mpr ⟨ih (n / 16),
      List.forall_mem_singleton.mpr (isBreak_upperDigit _ (Nat.mod_lt n (by decide)))⟩

theorem charOfNumber?_toNat (x : Char) : charOfNumber? x.toNat = some x := by
  rw [charOfNumber?, dif_pos (show x.toNat.isValidChar from x.valid)]
  rfl

/-- An escape by number stands for its character. -/
theorem unescape?_hexOfWidth {letter x : Char} {width : Nat} (hletter : escapedChar? letter = none)
    (hwidth : escapeWidth? letter = some width) (hx : x.toNat < 16 ^ width) (rest : List Char) :
    unescape? letter (hexOfWidth x.toNat width ++ rest) = some (x, width + 1) := by
  have htake : (hexOfWidth x.toNat width ++ rest).take width = hexOfWidth x.toNat width :=
    List.take_left' (length_hexOfWidth _ _)
  simp [unescape?, hletter, hwidth, htake, hexNumber?_hexOfWidth hx, charOfNumber?_toNat]

/-- An escape of one letter stands for its character. -/
theorem escapedChar?_of_escapeLetter? {x letter : Char} (h : escapeLetter? x = some letter) :
    escapedChar? letter = some x ∧ isBreak letter = false := by
  unfold escapeLetter? at h
  split at h
  case h_15 => cases h
  all_goals
    obtain rfl := Option.some.inj h
    exact ⟨rfl, rfl⟩

/-- A character but the space is read back from what stands for it between double quotes. -/
theorem readsChar_escaped {x : Char} (hx : x ≠ ' ') : ReadsChar .double writeEscaped x := by
  -- it is written as itself, as an escape of one letter or as an escape by number, which has two, four or eight
  -- digits
  by_cases hself : (isPrintable x && !isBreak x && x != '"' && x != '\\') = true
  · have hwrite : writeEscaped x = [x] := if_pos hself
    simp only [Bool.and_eq_true, Bool.not_eq_true', bne_iff_ne, ne_eq] at hself
    obtain ⟨⟨⟨hprintable, hbreak⟩, hquote⟩, hescape⟩ := hself
    refine .of_self hwrite ?_ hquote (by simp [hescape])
    by_contra hspacing
    exact hx (eq_space_of_isPrintable hprintable hbreak (by simpa using hspacing))
  · cases hletter : escapeLetter? x with
    | some letter =>
      obtain ⟨hchar, hbreak⟩ := escapedChar?_of_escapeLetter? hletter
      have hwrite : writeEscaped x = ['\\', letter] := by rw [writeEscaped, if_neg hself, hletter]
      exact .of_escape hwrite (by simpa using hbreak) fun rest => by simp [unescape?, hchar]
    | none =>
      have hnumber : ∀ (letter : Char) (width : Nat), writeEscaped x = '\\' :: letter :: hexOfWidth x.toNat width →
          escapedChar? letter = none → escapeWidth? letter = some width → isBreak letter = false →
          x.toNat < 16 ^ width → ReadsChar .double writeEscaped x := by
        intro letter width hwrite hsimple hwidth hbreak hlt
        refine .of_escape hwrite (List.forall_mem_cons.mpr ⟨hbreak, isBreak_hexOfWidth _ _⟩) fun rest => ?_
        rw [unescape?_hexOfWidth hsimple hwidth hlt, length_hexOfWidth]
      by_cases htwo : x.toNat ≤ 0xFF
      · exact hnumber 'x' 2 (by simp [writeEscaped, hself, hletter, htwo]) rfl rfl rfl (by omega)
      by_cases hfour : x.toNat ≤ 0xFFFF
      · exact hnumber 'u' 4 (by simp [writeEscaped, hself, hletter, htwo, hfour]) rfl rfl rfl (by omega)
      · have hvalid : x.toNat < 0xD800 ∨ 0xDFFF < x.toNat ∧ x.toNat < 0x110000 := x.valid
        exact hnumber 'U' 8 (by simp [writeEscaped, hself, hletter, htwo, hfour]) rfl rfl rfl (by omega)

/-- No character but the space is written as spacing. -/
theorem startsWord_writeEscaped {x : Char} (hx : x ≠ ' ') (rest : List Char) :
    StartsWord (writeEscaped x ++ rest) := by
  unfold writeEscaped
  split
  · rename_i hself
    simp only [Bool.and_eq_true, Bool.not_eq_true'] at hself
    refine startsWord_cons.mpr ?_
    by_contra hspacing
    exact hx (eq_space_of_isPrintable hself.1.1.1 hself.1.1.2 (by simpa using hspacing))
  · split
    · exact startsWord_cons.mpr rfl
    · dsimp only
      split_ifs <;> exact startsWord_cons.mpr rfl

/-- Any text can be written between double quotes. -/
theorem quoted_writeEscaped (indent : Nat) (text : List Char) :
    Quoted .double writeEscaped indent text (text.flatMap writeEscaped ++ ['"']) := by
  induction text using pieces_induction (p := isSpace) with
  | last word hword => exact .last fun x hx => readsChar_escaped (by simpa [isSpace] using hword x hx)
  | more word gap text hword hne hgap htext ih =>
    have hspaces : gap = spaces gap.length := eq_spaces fun x hx => by simpa [isSpace] using hgap x hx
    have hstart : StartsWord (text.flatMap writeEscaped ++ ['"']) := by
      cases text with
      | nil => exact startsWord_cons.mpr rfl
      | cons x text =>
        rw [List.flatMap_cons, List.append_assoc]
        exact startsWord_writeEscaped (by simpa [isSpace] using htext x rfl) _
    rw [hspaces, List.flatMap_append, List.flatMap_append, flatMap_spaces rfl, List.append_assoc, List.append_assoc]
    exact .blanks (fun x hx => readsChar_escaped (by simpa [isSpace] using hword x hx)) (List.length_pos_iff.mpr hne)
      hstart ih

/-- Between double quotes every text is read back. -/
theorem readQuoted_double {c : Cursor} {text rest : List Char} (hcolumn : 0 < c.column)
    (hc : c.rest = text.flatMap writeEscaped ++ '"' :: rest) (hrest : rest.head? ≠ some '"') :
    readQuoted .double c = some (text, c.past (text.flatMap writeEscaped ++ ['"'])) :=
  readQuoted_of_quoted (quoted_writeEscaped 1 text) Nat.one_pos (by simpa using hc) hrest hcolumn

end Fieldwise.Yaml
