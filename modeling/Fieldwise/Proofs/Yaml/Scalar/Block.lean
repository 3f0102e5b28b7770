import Fieldwise.Proofs.Yaml.Cursor

/-!
# Reading literal blocks back

A literal block holds the lines of a text, each behind its indentation, and the header says what the
indentation is where the first line does not show it and what becomes of the breaks at the end (`Keeps`).
Line by line the text is read back (`readLines_writeLines`), with the empty lines at the beginning and at
the end (`readBlock_literal`).
-/

namespace Fieldwise.Yaml

/-! ### Lines -/

section Lines

variable {indent n : Nat} {piece breaks text rest : List Char}

theorem writeLines_piece (hpiece : ∀ x ∈ piece, isBreak x = false) :
    writeLines indent false (piece ++ rest) = piece ++ writeLines indent false rest := by
  induction piece with
  | nil => rfl
  | cons x piece ih =>
    obtain ⟨hx, hpiece⟩ := List.forall_mem_cons.mp hpiece
    rw [List.cons_append, writeLines, if_neg (by simp [hx]), ih hpiece]
    rfl

theorem writeLines_breaks (hne : breaks ≠ []) (hbreaks : ∀ x ∈ breaks, isBreak x = true) (fresh : Bool) :
    writeLines indent fresh (breaks ++ rest) = breaks ++ writeLines indent true rest := by
  induction breaks generalizing fresh with
  | nil => contradiction
  | cons x breaks ih =>
    obtain ⟨hx, hbreaks⟩ := List.forall_mem_cons.mp hbreaks
    rw [List.cons_append, writeLines, if_pos hx]
    cases breaks with
    | nil => rfl
    | cons y breaks =>
      rw [ih (List.cons_ne_nil _ _) hbreaks]
      rfl

/-- A line that begins is indented. -/
theorem writeLines_line (hne : text ≠ []) (htext : ∀ x ∈ text.head?, isBreak x = false) :
    writeLines indent true text = spaces indent ++ writeLines indent false text := by
  obtain ⟨x, text, rfl⟩ := List.exists_cons_of_ne_nil hne
  simp [writeLines, htext x rfl]

theorem forall_mem_writeLines {P : Char → Prop} (hspace : P ' ') (htext : ∀ x ∈ text, P x) (fresh : Bool) :
    ∀ x ∈ writeLines indent fresh text, P x := by
  induction text generalizing fresh with
  | nil => nofun
  | cons x text ih =>
    obtain ⟨hx, htext⟩ := List.forall_mem_cons.mp htext
    have hindent : ∀ y ∈ (if fresh then spaces indent else []), P y := by
      intro y hy
      split at hy
      · rwa [mem_spaces hy]
      · cases hy
    rw [writeLines]
    split
    · exact List.forall_mem_cons.mpr ⟨hx, ih htext true⟩
    · exact List.forall_mem_append.mpr ⟨hindent, List.forall_mem_cons.mpr ⟨hx, ih htext false⟩⟩

theorem getLast?_writeLines (fresh : Bool) : (writeLines indent fresh text).getLast? = text.getLast? := by
  induction text generalizing fresh with
  | nil => rfl
  | cons x text ih =>
    rw [writeLines]
    split
    · rw [List.getLast?_cons, List.getLast?_cons, ih]
    · rw [List.getLast?_append, List.getLast?_cons, List.getLast?_cons, ih]
      rfl

/-! ### Indentation and breaks -/

variable {c : Cursor}

/-- Up to the column that is known, indentation is stepped over. -/
theorem skipIndent_spaces (h : c.rest = spaces n ++ rest) (hcolumn : c.column = 0) (hn : n ≤ indent)
    (hrest : n = indent ∨ rest.head? ≠ some ' ') : skipIndent c (some indent) = c.past (spaces n) := by
  have hblanks : (c.rest.takeWhile (· == ' ')).length = n + (rest.takeWhile (· == ' ')).length := by
    rw [h, List.takeWhile_append_of_pos fun x hx => by rw [mem_spaces hx]; rfl, List.length_append, length_spaces]
  have hmin : min (n + (rest.takeWhile (· == ' ')).length) (indent - c.column) = n := by
    rcases hrest with rfl | hrest
    · omega
    · have hnone : rest.takeWhile (· == ' ') = [] := by
        cases rest with
        | nil => rfl
        | cons x xs =>
          refine List.takeWhile_cons_of_neg ?_
          simpa using hrest
      rw [hnone, List.length_nil]
      omega
  rw [skipIndent, hblanks]
  simp only [hmin, Cursor.past_spaces]

/-- What does not belong to the breaks and the indentation of a block. -/
structure EndsIndent (n indent : Nat) (rest : List Char) : Prop where
  le : n ≤ indent
  eq_or : n = indent ∨ rest.head? ≠ some ' '
  head : ∀ x ∈ rest.head?, isBreak x = false ∧ x ≠ '\t'

/-- Breaks and the indentation behind them are read. -/
theorem readBlockBreaks_some (hend : EndsIndent n indent rest) (h : c.rest = breaks ++ (spaces n ++ rest))
    (hcolumn : c.column = 0) (hbreaks : ∀ x ∈ breaks, isBreak x = true) (hreturn : ∀ x ∈ breaks, x ≠ '\r')
    (greatest : Nat) :
    ∃ g, readBlockBreaks (some indent) greatest c =
      some (breaks.map breakValue, g, c.past (breaks ++ spaces n)) := by
  induction breaks generalizing c greatest with
  | nil =>
    have hskip := skipIndent_spaces h hcolumn hend.le hend.eq_or
    have hafter := Cursor.rest_past_spaces h
    refine ⟨max greatest (c.past (spaces n)).column, ?_⟩
    rw [readBlockBreaks, hskip]
    dsimp only
    split
    · rfl
    · rename_i x xs hx
      obtain ⟨hbreak, htab⟩ := hend.head x (by rw [← hafter, hx]; rfl)
      rw [if_neg (by simp [htab]), if_neg (by simp [hbreak])]
      rfl
  | cons b breaks ih =>
    obtain ⟨hb, htail⟩ := List.forall_mem_cons.mp hbreaks
    obtain ⟨hr, hreturn'⟩ := List.forall_mem_cons.mp hreturn
    have hne : b ≠ ' ' ∧ b ≠ '\t' := by
      constructor <;> (rintro rfl; exact absurd hb (by decide))
    -- an empty line has no indentation
    have hskip : skipIndent c (some indent) = c :=
      skipIndent_spaces (n := 0) h hcolumn (Nat.zero_le _) (.inr (by simpa using hne.1))
    have hafter : c.skipLine.rest = breaks ++ (spaces n ++ rest) := by rw [Cursor.skipLine_eq h hr]; rfl
    obtain ⟨g, hg⟩ := ih hafter (by rw [Cursor.skipLine_eq h hr]) htail hreturn' (max greatest c.column)
    refine ⟨g, ?_⟩
    rw [readBlockBreaks, hskip]
    dsimp only
    split
    · rename_i hnil
      cases hnil.symm.trans h
    · rename_i x xs hx
      obtain ⟨rfl, -⟩ := List.cons.inj (hx.symm.trans h)
      rw [if_neg (by simp [hne.2]), if_pos hb, hg, List.cons_append, Cursor.past_cons, Cursor.pass_of_break hb]
      rfl

end Lines

/-! ### What becomes of the breaks at the end -/

/-- The sign of a chomping in a header. -/
def Chomping.sign : Chomping → List Char
  | .clip => []
  | .strip => ['-']
  | .keep => ['+']

/-- A chomping keeps the end of a text as it is if the last line is always ended by a break. -/
structure Keeps (chomping : Chomping) (text : List Char) : Prop where
  strip : ∀ x ∈ text.getLast?, isBreak x = false → chomping = .strip
  ne_strip : ∀ x ∈ text.getLast?, isBreak x = true → chomping ≠ .strip
  keep : ∀ pre b bs, text = pre ++ b :: bs → bs ≠ [] → (∀ x ∈ b :: bs, isBreak x = true) → chomping = .keep
  keep_all : (∀ x ∈ text, isBreak x = true) → chomping = .keep

/-- The chomping that is written for a text. -/
def chompingOf (text : List Char) : Chomping :=
  match text.reverse with
  | [] => .strip
  | [c] => if isBreak c then .keep else .strip
  | c :: d :: _ => if !isBreak c then .strip else if isBreak d then .keep else .clip

/-- The step of indentation that is written for a text. -/
def hintOf (text : List Char) : Option Nat :=
  if text.head?.any fun c => isSpace c || isBreak c then some 2 else none

/-- The digit of a step of indentation in a header. -/
def hintSign : Option Nat → List Char
  | none => []
  | some _ => ['2']

theorem literalHeader_eq (text : List Char) :
    literalHeader text = '|' :: (hintSign (hintOf text) ++ (chompingOf text).sign) := by
  have hhint : (if text.head?.any fun c => isSpace c || isBreak c then ['2'] else []) =
      hintSign (hintOf text) := by
    unfold hintOf
    split <;> rfl
  rw [literalHeader, hhint, List.cons_append, chompingOf]
  congr 2
  rcases text.reverse with _ | ⟨c, _ | ⟨d, more⟩⟩
  · rfl
  · dsimp only
    split <;> rfl
  · dsimp only
    split_ifs <;> rfl

/-- The chomping that is written for a text keeps its end. -/
theorem keeps_chompingOf {text : List Char} (hne : text ≠ []) : Keeps (chompingOf text) text := by
  have hlast : text.getLast? = text.reverse.head? := List.head?_reverse.symm
  unfold chompingOf
  split
  · rename_i hnil
    exact absurd (List.reverse_eq_nil_iff.mp hnil) hne
  · rename_i c hrev
    obtain rfl : text = [c] := by simpa using congrArg List.reverse hrev
    refine ⟨?_, ?_, ?_, ?_⟩
    · simp +contextual
    · simp +contextual
    · intro pre b bs htext hbs
      have hlength := congrArg List.length htext
      have := List.length_pos_iff.mpr hbs
      simp only [List.length_append, List.length_cons, List.length_nil] at hlength
      omega
    · simp +contextual
  · rename_i c d more hrev
    have hc : ∀ x ∈ text.getLast?, x = c := by
      rw [hlast, hrev]
      simp
    refine ⟨fun x hx hbreak => ?_, fun x hx hbreak => ?_, fun pre b bs htext hbs hbreaks => ?_, fun hbreaks => ?_⟩
    · rw [← hc x hx, hbreak]
      rfl
    · rw [← hc x hx, hbreak]
      simp only [Bool.not_true, Bool.false_eq_true, if_false]
      split_ifs <;> simp
    · -- the last two of the breaks are the last two of the text
      have hcd : isBreak c = true ∧ isBreak d = true := by
        have hrev' : bs.reverse ++ (b :: pre.reverse) = c :: d :: more := by
          rw [← hrev, htext]
          simp
        have hmem : ∀ x ∈ bs.reverse ++ [b], isBreak x = true := fun x hx => hbreaks x (by simpa [or_comm] using hx)
        rcases hbs' : bs.reverse with _ | ⟨y, _ | ⟨z, ys⟩⟩
        · exact absurd (List.reverse_eq_nil_iff.mp hbs') hbs
        all_goals
          rw [hbs'] at hrev' hmem
          obtain ⟨rfl, hrest⟩ := List.cons.inj hrev'
          obtain ⟨rfl, -⟩ := List.cons.inj hrest
          exact ⟨hmem _ (by simp), hmem _ (by simp)⟩
      rw [hcd.1, hcd.2]
      rfl
    · have hmem : ∀ x ∈ text.reverse, isBreak x = true := fun x hx => hbreaks x (List.mem_reverse.mp hx)
      rw [hrev] at hmem
      rw [hmem c List.mem_cons_self, hmem d (List.mem_cons_of_mem _ List.mem_cons_self)]
      rfl

/-! ### Reading lines -/

section Reading

variable {c next : Cursor} {chomping : Chomping} {indent n : Nat} {own more piece breaks text rest : List Char}

theorem readLines_end (blank : Bool) (h : c.column ≠ indent) :
    readLines .literal chomping indent own more blank c =
      some ((if chomping = .strip then [] else own) ++ (if chomping = .keep then more else []), c) := by
  rw [readLines, dif_neg (fun hc => h hc.1)]

/-- A line is read with the breaks behind it, and the reading goes on with the next line. -/
theorem readLines_piece (chomping : Chomping) (own more : List Char) (blank : Bool) (hne : piece ≠ [])
    (hpiece : ∀ x ∈ piece, isBreak x = false) {b : Char}
    (hbreaks : ∀ x ∈ b :: breaks, isBreak x = true) (hreturn : ∀ x ∈ b :: breaks, x ≠ '\r')
    (hend : EndsIndent n indent rest) (hcolumn : c.column = indent)
    (h : c.rest = piece ++ (b :: breaks ++ (spaces n ++ rest))) :
    ∃ blank', readLines .literal chomping indent own more blank c =
      (readLines .literal chomping indent [breakValue b] (breaks.map breakValue) blank'
          (c.past (piece ++ (b :: breaks ++ spaces n)))).map fun (text, c) => (own ++ more ++ piece ++ text, c) := by
  -- the reader takes the line, its own break, the empty lines behind it and the indentation of the next line
  have hc : c.rest ≠ [] := by simp [h, hne]
  obtain ⟨hb, hbreaks'⟩ := List.forall_mem_cons.mp hbreaks
  obtain ⟨hr, hreturn'⟩ := List.forall_mem_cons.mp hreturn
  have hline : c.rest.takeWhile (fun x => !isBreak x) = piece := by
    rw [h, List.takeWhile_append_of_pos fun x hx => by simp [hpiece x hx], List.cons_append,
      List.takeWhile_cons_of_neg (by simp [hb]), List.append_nil]
  have hafter : (c.skip piece.length).rest = b :: (breaks ++ (spaces n ++ rest)) := by
    rw [← Cursor.past_eq_skip hpiece]
    exact Cursor.rest_past h fun x hx => ne_return_of_not_break (hpiece x hx)
  have hskip := Cursor.skipLine_eq hafter hr
  obtain ⟨g, hg⟩ := readBlockBreaks_some hend (c := (c.skip piece.length).skipLine) (by rw [hskip])
    (by rw [hskip]) hbreaks' hreturn' 0
  have hover : (c.skip piece.length).skipLine.past (breaks ++ spaces n) =
      c.past (piece ++ (b :: breaks ++ spaces n)) := by
    rw [Cursor.past_append c piece, Cursor.past_eq_skip hpiece, List.cons_append, Cursor.past_cons,
      Cursor.pass_of_break hb]
  rw [hover] at hg
  refine ⟨c.rest.head?.any isBlank, ?_⟩
  rw [readLines, dif_pos ⟨hcolumn, hc⟩]
  simp only [hline]
  split
  · rename_i hnone
    rw [hline, hg] at hnone
    cases hnone
  · rename_i more' g' next' hsome
    rw [hline, hg] at hsome
    obtain ⟨rfl, hpair⟩ := Prod.mk.inj (Option.some.inj hsome)
    obtain ⟨-, rfl⟩ := Prod.mk.inj hpair
    have hnext : (c.skip piece.length).next? = some b := by rw [Cursor.next?, hafter, List.head?_cons]
    rw [hnext]
    simp [joinLines]

section Piece

variable {b : Char} (hpiece : ∀ x ∈ piece, isBreak x = false) (hbreaks : ∀ x ∈ b :: breaks, isBreak x = true)
variable (hreturn : ∀ x ∈ b :: breaks, x ≠ '\r') (h : c.rest = piece ++ (b :: breaks ++ (spaces n ++ rest)))

include hpiece hreturn h

/-- Behind a line and its breaks there is the next line. -/
theorem rest_past_piece : (c.past (piece ++ (b :: breaks ++ spaces n))).rest = rest := by
  rw [Cursor.past_append, Cursor.past_append]
  exact Cursor.rest_past_spaces (Cursor.rest_past
    (Cursor.rest_past h fun x hx => ne_return_of_not_break (hpiece x hx)) hreturn)

include hbreaks

theorem column_past_piece : (c.past (piece ++ (b :: breaks ++ spaces n))).column = n := by
  have hover := Cursor.rest_past h fun x hx => ne_return_of_not_break (hpiece x hx)
  rw [Cursor.past_append, Cursor.past_append, Cursor.column_past isBreak_of_mem_spaces,
    Cursor.column_past_breaks hover (List.cons_ne_nil b breaks) hbreaks hreturn, length_spaces, Nat.zero_add]

end Piece

/-! ### Texts that a literal block can hold -/

/-- The end of the last line, if the text does not have it. -/
def lineEnd (text : List Char) : List Char := if text.getLast?.any isBreak then [] else ['\n']

theorem lineEnd_append {pre : List Char} (hne : text ≠ []) : lineEnd (pre ++ text) = lineEnd text := by
  rw [lineEnd, lineEnd, List.getLast?_append, List.getLast?_eq_some_getLast hne]
  rfl

theorem lineEnd_of_breaks (hne : breaks ≠ []) (hbreaks : ∀ x ∈ breaks, isBreak x = true) : lineEnd breaks = [] := by
  obtain ⟨x, hx⟩ := Option.ne_none_iff_exists'.mp (mt List.getLast?_eq_none_iff.mp hne)
  rw [lineEnd, hx, Option.any_some, if_pos (hbreaks x (List.mem_of_getLast? hx))]

theorem lineEnd_of_piece (hpiece : ∀ x ∈ piece, isBreak x = false) : lineEnd piece = ['\n'] := by
  rw [lineEnd, if_neg]
  cases hx : piece.getLast? with
  | none => simp
  | some x => simp [hpiece x (List.mem_of_getLast? hx)]

/-- What a literal block can hold: the breaks are what they count as, and nothing looks like a tab. -/
def IsLiteral (text : List Char) : Prop :=
  ∀ x ∈ text, x ≠ '\r' ∧ x ≠ '\t' ∧ (isBreak x = true → breakValue x = x)

theorem map_breakValue (hliteral : IsLiteral breaks) (hbreaks : ∀ x ∈ breaks, isBreak x = true) :
    breaks.map breakValue = breaks :=
  (List.map_congr_left fun x hx => (hliteral x hx).2.2 (hbreaks x hx)).trans (List.map_id breaks)

theorem Keeps.of_append {pre rest : List Char} (h : Keeps chomping (pre ++ rest)) (hne : rest ≠ [])
    (hrest : ∀ x ∈ rest.head?, isBreak x = false) : Keeps chomping rest := by
  have hlast : (pre ++ rest).getLast? = rest.getLast? := by
    rw [List.getLast?_append, List.getLast?_eq_some_getLast hne]
    rfl
  refine ⟨fun x hx => h.strip x (hlast ▸ hx), fun x hx => h.ne_strip x (hlast ▸ hx), fun pre' b bs hbs => ?_,
    fun hall => ?_⟩
  · exact h.keep (pre ++ pre') b bs (by rw [hbs, List.append_assoc])
  · obtain ⟨x, xs, rfl⟩ := List.exists_cons_of_ne_nil hne
    cases (hall x List.mem_cons_self).symm.trans (hrest x rfl)

/-- A word at another column ends a block. -/
theorem EndsIndent.of_startsWord (hrest : StartsWord rest) (hn : n ≤ indent) : EndsIndent n indent rest := by
  refine ⟨hn, .inr ?_, fun x hx => ⟨isBreak_of_not_spacing (hrest x hx), ?_⟩⟩
  · intro hspace
    exact absurd (hrest ' ' hspace) (by decide)
  · rintro rfl
    exact absurd (hrest '\t' hx) (by decide)

theorem head?_writeLines_append (hne : text ≠ []) (hfirst : ∀ x ∈ text.head?, isBreak x = false) (more : List Char) :
    (writeLines indent false text ++ more).head? = text.head? := by
  obtain ⟨x, text, rfl⟩ := List.exists_cons_of_ne_nil hne
  simp [writeLines, hfirst x rfl]

/-- Another line of the text ends the breaks before it. -/
theorem EndsIndent.of_writeLines (hne : text ≠ []) (hfirst : ∀ x ∈ text.head?, isBreak x = false)
    (hliteral : IsLiteral text) (more : List Char) :
    EndsIndent indent indent (writeLines indent false text ++ more) := by
  refine ⟨Nat.le_refl _, .inl rfl, fun x hx => ?_⟩
  rw [head?_writeLines_append hne hfirst] at hx
  exact ⟨hfirst x hx, (hliteral x (List.mem_of_mem_head? hx)).2.1⟩

/-! ### Reading a text line by line -/

/-- The last line of a text that does not have its end: none is kept. -/
theorem readLines_lastPiece (own more : List Char) (blank : Bool) (hne : piece ≠ [])
    (hpiece : ∀ x ∈ piece, isBreak x = false) (hkeeps : Keeps chomping piece)
    (hend : EndsIndent n indent rest) (hn : n < indent) (hcolumn : c.column = indent)
    (h : c.rest = piece ++ (['\n'] ++ (spaces n ++ rest))) :
    readLines .literal chomping indent own more blank c =
      some (own ++ more ++ piece, c.past (piece ++ (['\n'] ++ spaces n))) := by
  obtain ⟨blank', hread⟩ := readLines_piece chomping own more blank hne hpiece
    (by simp [isBreak]) (by simp) hend hcolumn h
  have hnext := column_past_piece hpiece (by simp [isBreak]) (by simp) h
  -- the break that ends the line is not part of the text
  have hstrip : chomping = .strip := by
    obtain ⟨x, hx⟩ := Option.ne_none_iff_exists'.mp (mt List.getLast?_eq_none_iff.mp hne)
    exact hkeeps.strip x hx (hpiece x (List.mem_of_getLast? hx))
  rw [hread, readLines_end _ (by rw [hnext]; exact Nat.ne_of_lt hn)]
  simp [hstrip]

/-- The last line of a text with the breaks at its end: all of them are kept. -/
theorem readLines_lastBreaks (own more : List Char) (blank : Bool) {b : Char} (hne : piece ≠ [])
    (hpiece : ∀ x ∈ piece, isBreak x = false) (hbreaks : ∀ x ∈ b :: breaks, isBreak x = true)
    (hliteral : IsLiteral (b :: breaks)) (hkeeps : Keeps chomping (piece ++ b :: breaks))
    (hend : EndsIndent n indent rest) (hn : n < indent) (hcolumn : c.column = indent)
    (h : c.rest = piece ++ (b :: breaks ++ (spaces n ++ rest))) :
    readLines .literal chomping indent own more blank c =
      some (own ++ more ++ (piece ++ b :: breaks), c.past (piece ++ (b :: breaks ++ spaces n))) := by
  have hreturn : ∀ x ∈ b :: breaks, x ≠ '\r' := fun x hx => (hliteral x hx).1
  obtain ⟨blank', hread⟩ := readLines_piece chomping own more blank hne hpiece hbreaks hreturn hend hcolumn h
  have hnext := column_past_piece hpiece hbreaks hreturn h
  have hvalue := map_breakValue hliteral hbreaks
  obtain ⟨hb, hbs⟩ := List.cons.inj hvalue
  have hstrip : chomping ≠ .strip := by
    obtain ⟨x, hx⟩ := Option.ne_none_iff_exists'.mp (mt List.getLast?_eq_none_iff.mp (List.cons_ne_nil b breaks))
    exact hkeeps.ne_strip x (by simp [List.getLast?_append, hx]) (hbreaks x (List.mem_of_getLast? hx))
  -- one break is kept by clipping, too, but empty lines are only kept by keeping
  have hkept : (if chomping = .keep then breaks else []) = breaks := by
    by_cases hnil : breaks = []
    · simp [hnil]
    · rw [if_pos (hkeeps.keep piece b breaks rfl hnil hbreaks)]
  rw [hread, readLines_end _ (by rw [hnext]; exact Nat.ne_of_lt hn), if_neg hstrip, hb, hbs, hkept]
  simp

/-- **Lines.** From the beginning of a line on the text is read back, up to a line that is indented less. -/
theorem readLines_writeLines (blank : Bool) (hne : text ≠ []) (hfirst : ∀ x ∈ text.head?, isBreak x = false)
    (hliteral : IsLiteral text) (hkeeps : Keeps chomping text) (hrest : StartsWord rest) (hn : n < indent)
    (hcolumn : c.column = indent)
    (h : c.rest = writeLines indent false text ++ (lineEnd text ++ (spaces n ++ rest))) :
    readLines .literal chomping indent own more blank c =
      some (own ++ more ++ text, c.past (writeLines indent false text ++ (lineEnd text ++ spaces n))) := by
  -- line by line, where the breaks behind a line are read together with it
  have hend : EndsIndent n indent rest := .of_startsWord hrest (Nat.le_of_lt hn)
  induction text using pieces_induction (p := isBreak) generalizing c own more blank with
  | last piece hpiece =>
    have hwrite : writeLines indent false piece = piece := by
      simpa [writeLines] using @writeLines_piece indent piece [] hpiece
    rw [hwrite, lineEnd_of_piece hpiece] at h ⊢
    exact readLines_lastPiece own more blank hne hpiece hkeeps hend hn hcolumn h
  | more piece gap text hpiece hgap_ne hgap htext ih =>
    obtain ⟨b, bs, rfl⟩ := List.exists_cons_of_ne_nil hgap_ne
    have hpiece_ne : piece ≠ [] := by
      rintro rfl
      cases (hfirst b rfl).symm.trans (hgap b List.mem_cons_self)
    obtain ⟨hgap_literal, htext_literal⟩ := List.forall_mem_append.mp (List.forall_mem_append.mp hliteral).2
    have hwrite : writeLines indent false (piece ++ (b :: bs ++ text)) =
        piece ++ (b :: bs ++ writeLines indent true text) := by
      rw [writeLines_piece hpiece, writeLines_breaks hgap_ne hgap]
    rw [hwrite] at h ⊢
    by_cases htext_nil : text = []
    · -- the text ends with these breaks
      subst htext_nil
      have hlineEnd : lineEnd (piece ++ (b :: bs ++ [])) = [] := by
        rw [List.append_nil, lineEnd_append hgap_ne, lineEnd_of_breaks hgap_ne hgap]
      rw [hlineEnd, writeLines, List.nil_append] at h
      rw [hlineEnd, writeLines, List.nil_append]
      simp only [List.append_nil, List.append_assoc piece] at h hkeeps ⊢
      exact readLines_lastBreaks own more blank hpiece_ne hpiece hgap hgap_literal hkeeps hend hn hcolumn h
    · -- another line follows, whose indentation belongs to the breaks
      have hreturn : ∀ x ∈ b :: bs, x ≠ '\r' := fun x hx => (hgap_literal x hx).1
      obtain ⟨hb, hbs⟩ := List.cons.inj (map_breakValue hgap_literal hgap)
      have hlineEnd : lineEnd (piece ++ (b :: bs ++ text)) = lineEnd text := by
        rw [← List.append_assoc, lineEnd_append htext_nil]
      rw [← List.append_assoc] at hkeeps
      rw [hlineEnd, writeLines_line htext_nil htext] at h ⊢
      simp only [List.append_assoc] at h
      obtain ⟨blank', hread⟩ := readLines_piece chomping own more blank hpiece_ne hpiece hgap hreturn
        (.of_writeLines htext_nil htext htext_literal _) hcolumn h
      rw [hread, ih _ htext_nil htext htext_literal (hkeeps.of_append htext_nil htext)
        (column_past_piece hpiece hgap hreturn h) (rest_past_piece hpiece hreturn h), hb, hbs, ← Cursor.past_append]
      simp

/-! ### The header -/

theorem hintOf_eq_or (text : List Char) : hintOf text = none ∨ hintOf text = some 2 := by
  unfold hintOf
  split
  · exact .inr rfl
  · exact .inl rfl

/-- The header that is written for a text is read back. -/
theorem readHeader_written (text : List Char)
    (h : c.rest = hintSign (hintOf text) ++ (chomping.sign ++ '\n' :: rest)) :
    readHeader c = some (⟨chomping, hintOf text⟩, c.past (hintSign (hintOf text) ++ chomping.sign)) := by
  obtain ⟨_, index, line, column⟩ := c
  obtain rfl := h
  rcases hintOf_eq_or text with hhint | hhint <;> rw [hhint] <;> cases chomping <;> rfl

theorem skipHeaderEnd_newline (h : c.rest = '\n' :: rest) : skipHeaderEnd c = some (c.past ['\n']) := by
  obtain ⟨_, index, line, column⟩ := c
  obtain rfl := h
  rfl

/-- Where nothing is known of the indentation, the first line shows it. -/
theorem readBlockBreaks_none (h : c.rest = spaces n ++ rest) (hcolumn : c.column = 0)
    (hrest : ∀ x ∈ rest.head?, isBreak x = false ∧ x ≠ '\t' ∧ x ≠ ' ') :
    readBlockBreaks none 0 c = some ([], n, c.past (spaces n)) := by
  have hblanks : c.rest.takeWhile (· == ' ') = spaces n := by
    rw [h, List.takeWhile_append_of_pos fun x hx => by rw [mem_spaces hx]; rfl]
    cases rest with
    | nil => simp
    | cons x xs => simp [hrest x rfl]
  have hskip : skipIndent c none = c.past (spaces n) := by
    rw [skipIndent, hblanks, length_spaces, Cursor.past_spaces]
  have hgreatest : max 0 (c.past (spaces n)).column = n := by
    rw [Cursor.column_past isBreak_of_mem_spaces, hcolumn, length_spaces]
    omega
  have hafter := Cursor.rest_past_spaces h
  rw [readBlockBreaks, hskip]
  dsimp only
  rw [hgreatest]
  split
  · rfl
  · rename_i x xs hx
    obtain ⟨hbreak, htab, -⟩ := hrest x (by rw [← hafter, hx]; rfl)
    rw [if_neg (by simp [htab]), if_neg (by simp [hbreak])]

/-- The empty lines at the beginning of a block are read, and the indentation is what it is in the first
line that is not empty. -/
theorem readBlockBreaks_hint {outer : Nat} (text : List Char) (h : c.rest = breaks ++ (spaces n ++ rest))
    (hcolumn : c.column = 0) (hbreaks : ∀ x ∈ breaks, isBreak x = true) (hreturn : ∀ x ∈ breaks, x ≠ '\r')
    (hend : EndsIndent n (outer + 1) rest) (houter : 0 < outer)
    (hnone : hintOf text = none → breaks = [] ∧ n = outer + 1 ∧ rest.head? ≠ some ' ') :
    ∃ g, readBlockBreaks ((hintOf text).map (· + (outer - 1))) 0 c =
        some (breaks.map breakValue, g, c.past (breaks ++ spaces n)) ∧
      ((hintOf text).map (· + (outer - 1))).getD (max g (max outer 1)) = outer + 1 := by
  rcases hintOf_eq_or text with hhint | hhint
  · -- the first line shows the indentation, which is then the greatest column that was reached
    obtain ⟨rfl, rfl, hspace⟩ := hnone hhint
    rw [hhint]
    refine ⟨outer + 1, readBlockBreaks_none h hcolumn fun x hx =>
      ⟨(hend.head x hx).1, (hend.head x hx).2, ?_⟩, ?_⟩
    · rintro rfl
      exact hspace hx
    · rw [Option.map_none, Option.getD_none]
      omega
  · -- the header tells the indentation
    have hfixed : 2 + (outer - 1) = outer + 1 := by omega
    rw [hhint, Option.map_some, hfixed]
    obtain ⟨g, hg⟩ := readBlockBreaks_some hend h hcolumn hbreaks hreturn 0
    exact ⟨g, hg, rfl⟩

/-! ### The whole scalar -/

/-- A block is its header, the empty lines at its beginning and its lines. -/
theorem readBlock_eq {style : BlockStyle} {outer g : Nat} {header : BlockHeader} {c₁ c₂ c₃ : Cursor}
    (hheader : readHeader c = some (header, c₁)) (hline : skipHeaderEnd c₁ = some c₂)
    (hbreaks : readBlockBreaks (header.indent.map (· + (outer - 1))) 0 c₂ = some (breaks, g, c₃))
    (hindent : (header.indent.map (· + (outer - 1))).getD (max g (max outer 1)) = indent) :
    readBlock style outer c = readLines style header.chomping indent [] breaks false c₃ := by
  simp only [readBlock, hheader, hline, hbreaks, hindent, Option.bind_eq_bind, Option.bind_some]

theorem sign_ne_return (hint : Option Nat) (chomping : Chomping) :
    ∀ x ∈ hintSign hint ++ (chomping.sign ++ ['\n']), x ≠ '\r' := by
  cases hint <;> cases chomping <;> simp [hintSign, Chomping.sign]

/-- Where the first line shows the indentation, it begins with neither a space nor a break. -/
theorem head?_of_hintOf (h : hintOf text = none) : ∀ x ∈ text.head?, x ≠ ' ' ∧ isBreak x = false := by
  intro x hx
  rw [hintOf, Option.mem_def.mp hx, Option.any_some] at h
  by_contra hcontra
  rw [if_pos] at h
  · cases h
  · simpa [isSpace, not_and_or, or_iff_not_imp_left] using hcontra

/-- Behind the header of a text the empty lines at the beginning show the indentation, or the first line does, and
then the text is read up to a place. -/
def ReadsBody (outer : Nat) (text : List Char) (c after : Cursor) : Prop :=
  ∃ breaks g next,
    readBlockBreaks ((hintOf text).map (· + (outer - 1))) 0 c = some (breaks, g, next) ∧
      ((hintOf text).map (· + (outer - 1))).getD (max g (max outer 1)) = outer + 1 ∧
      readLines .literal (chompingOf text) (outer + 1) [] breaks false next = some (text, after)

section Body

variable {outer : Nat} {lead body : List Char}

/-- A text of breaks alone consists of empty lines. -/
theorem readsBody_breaks (hne : lead ≠ []) (hlead : ∀ x ∈ lead, isBreak x = true) (hliteral : IsLiteral lead)
    (hrest : StartsWord rest) (houter : 0 < outer) (hn : n ≤ outer) (hcolumn : c.column = 0)
    (h : c.rest = lead ++ (spaces n ++ rest)) : ReadsBody outer lead c (c.past (lead ++ spaces n)) := by
  have hreturn : ∀ x ∈ lead, x ≠ '\r' := fun x hx => (hliteral x hx).1
  have hnone : hintOf lead = none → lead = [] ∧ n = outer + 1 ∧ rest.head? ≠ some ' ' := fun hnone => by
    obtain ⟨x, xs, rfl⟩ := List.exists_cons_of_ne_nil hne
    cases (hlead x List.mem_cons_self).symm.trans (head?_of_hintOf hnone x rfl).2
  obtain ⟨g, hg, hindent⟩ := readBlockBreaks_hint lead h hcolumn hlead hreturn
    (.of_startsWord hrest (by omega)) houter hnone
  refine ⟨_, g, _, hg, hindent, ?_⟩
  have hnext : (c.past (lead ++ spaces n)).column ≠ outer + 1 := by
    rw [Cursor.past_append, Cursor.column_past isBreak_of_mem_spaces,
      Cursor.column_past_breaks h hne hlead hreturn, length_spaces]
    omega
  rw [readLines_end _ hnext, map_breakValue hliteral hlead, (keeps_chompingOf hne).keep_all hlead]
  rfl

/-- In another text a line follows the empty ones. -/
theorem readsBody_lines (hne : body ≠ []) (hlead : ∀ x ∈ lead, isBreak x = true)
    (hbody : ∀ x ∈ body.head?, isBreak x = false) (hliteral : IsLiteral (lead ++ body)) (hrest : StartsWord rest)
    (houter : 0 < outer) (hn : n ≤ outer) (hcolumn : c.column = 0)
    (h : c.rest = lead ++ (spaces (outer + 1) ++
      (writeLines (outer + 1) false body ++ (lineEnd body ++ (spaces n ++ rest))))) :
    ReadsBody outer (lead ++ body) c
      (c.past (lead ++ (spaces (outer + 1) ++ (writeLines (outer + 1) false body ++ (lineEnd body ++ spaces n))))) := by
  obtain ⟨hlead_literal, hbody_literal⟩ := List.forall_mem_append.mp hliteral
  have hreturn : ∀ x ∈ lead, x ≠ '\r' := fun x hx => (hlead_literal x hx).1
  have hnone : hintOf (lead ++ body) = none → lead = [] ∧ outer + 1 = outer + 1 ∧
      (writeLines (outer + 1) false body ++ (lineEnd body ++ (spaces n ++ rest))).head? ≠ some ' ' := by
    intro hnone
    have hfirst := head?_of_hintOf hnone
    -- a break or a space at the beginning of the text would be told by the header
    have hlead_nil : lead = [] := by
      by_contra hlead_ne
      obtain ⟨x, xs, rfl⟩ := List.exists_cons_of_ne_nil hlead_ne
      cases (hlead x List.mem_cons_self).symm.trans (hfirst x rfl).2
    subst hlead_nil
    refine ⟨rfl, rfl, ?_⟩
    rw [head?_writeLines_append hne hbody]
    exact fun hspace => (hfirst ' ' hspace).1 rfl
  obtain ⟨g, hg, hindent⟩ := readBlockBreaks_hint (lead ++ body) h hcolumn hlead hreturn
    (.of_writeLines hne hbody hbody_literal _) houter hnone
  have hlead_column : (c.past lead).column = 0 := by
    by_cases hlead_nil : lead = []
    · rw [hlead_nil, Cursor.past_nil, hcolumn]
    · exact Cursor.column_past_breaks h hlead_nil hlead hreturn
  have hcolumn' : ((c.past lead).past (spaces (outer + 1))).column = outer + 1 := by
    rw [Cursor.column_past isBreak_of_mem_spaces, hlead_column, length_spaces, Nat.zero_add]
  have hkeeps := (keeps_chompingOf (List.append_ne_nil_of_right_ne_nil lead hne)).of_append hne hbody
  refine ⟨_, g, _, hg, hindent, ?_⟩
  rw [Cursor.past_append c lead, readLines_writeLines false hne hbody hbody_literal hkeeps hrest
    (Nat.lt_succ_of_le hn) hcolumn' (Cursor.rest_past_spaces (Cursor.rest_past h hreturn)),
    map_breakValue hlead_literal hlead, ← Cursor.past_append, ← Cursor.past_append]
  rfl

/-- Every text is one of both kinds. -/
theorem readsBody_written (hne : text ≠ []) (hliteral : IsLiteral text) (hrest : StartsWord rest)
    (houter : 0 < outer) (hn : n ≤ outer) (hcolumn : c.column = 0)
    (h : c.rest = writeLines (outer + 1) true text ++ (lineEnd text ++ (spaces n ++ rest))) :
    ReadsBody outer text c (c.past (writeLines (outer + 1) true text ++ (lineEnd text ++ spaces n))) := by
  have hsplit := List.takeWhile_append_dropWhile (p := isBreak) (l := text)
  have hlead : ∀ x ∈ text.takeWhile isBreak, isBreak x = true := fun x hx => List.mem_takeWhile_imp hx
  have hbody : ∀ x ∈ (text.dropWhile isBreak).head?, isBreak x = false := fun x hx => by
    have hstop := List.head?_dropWhile_not isBreak text
    rwa [Option.mem_def.mp hx] at hstop
  generalize text.takeWhile isBreak = lead at hsplit hlead
  generalize text.dropWhile isBreak = body at hsplit hbody
  subst hsplit
  by_cases hbody_nil : body = []
  · subst hbody_nil
    rw [List.append_nil] at *
    have hwrite : writeLines (outer + 1) true lead = lead := by
      simpa [writeLines] using @writeLines_breaks (outer + 1) lead [] hne hlead true
    rw [hwrite, lineEnd_of_breaks hne hlead, List.nil_append] at h ⊢
    exact readsBody_breaks hne hlead hliteral hrest houter hn hcolumn h
  · have hwrite : writeLines (outer + 1) true (lead ++ body) =
        lead ++ (spaces (outer + 1) ++ writeLines (outer + 1) false body) := by
      rw [← writeLines_line hbody_nil hbody]
      by_cases hlead_nil : lead = []
      · rw [hlead_nil, List.nil_append, List.nil_append]
      · exact writeLines_breaks hlead_nil hlead true
    rw [hwrite, lineEnd_append hbody_nil] at h ⊢
    simp only [List.append_assoc] at h ⊢
    exact readsBody_lines hbody_nil hlead hbody hliteral hrest houter hn hcolumn h

end Body

/-- **Literal blocks.** A text is read back from the block that is written for it, up to a line that is indented
less. Its lines stand one column right of the `outer` ones at the least. -/
theorem readBlock_literal {outer : Nat} (hne : text ≠ []) (hliteral : IsLiteral text) (hrest : StartsWord rest)
    (houter : 0 < outer) (hn : n ≤ outer)
    (h : c.rest = hintSign (hintOf text) ++ ((chompingOf text).sign ++ '\n' ::
      (writeLines (outer + 1) true text ++ (lineEnd text ++ (spaces n ++ rest))))) :
    readBlock .literal outer c =
      some (text, c.past (hintSign (hintOf text) ++ ((chompingOf text).sign ++ '\n' ::
        (writeLines (outer + 1) true text ++ (lineEnd text ++ spaces n))))) := by
  have hsigns : (c.past (hintSign (hintOf text) ++ (chompingOf text).sign)).rest =
      ['\n'] ++ (writeLines (outer + 1) true text ++ (lineEnd text ++ (spaces n ++ rest))) :=
    Cursor.rest_past (by rw [h, List.append_assoc, List.singleton_append]) fun x hx =>
      sign_ne_return (hintOf text) (chompingOf text) x (by simp at hx ⊢; tauto)
  have hlines := Cursor.rest_past hsigns (by simp)
  have hcolumn := Cursor.column_past_breaks hsigns (by simp) (by simp [isBreak]) (by simp)
  obtain ⟨breaks, g, next, hbreaks, hindent, hread⟩ :=
    readsBody_written hne hliteral hrest houter hn hcolumn hlines
  rw [readBlock_eq (readHeader_written text h) (skipHeaderEnd_newline hsigns) hbreaks hindent, hread,
    ← Cursor.past_append, ← Cursor.past_append]
  simp

/-- Behind such a block there is the next line. -/
theorem past_literal {outer : Nat} (hne : text ≠ []) (hliteral : IsLiteral text)
    (h : c.rest = hintSign (hintOf text) ++ ((chompingOf text).sign ++ '\n' ::
      (writeLines (outer + 1) true text ++ (lineEnd text ++ (spaces n ++ rest)))))
    (hnext : c.past (hintSign (hintOf text) ++ ((chompingOf text).sign ++ '\n' ::
      (writeLines (outer + 1) true text ++ (lineEnd text ++ spaces n)))) = next) :
    next.rest = rest ∧ next.column = n ∧ c.line < next.line := by
  have hsigns : ∀ x ∈ hintSign (hintOf text) ++ (chompingOf text).sign, x ≠ '\r' := fun x hx =>
    sign_ne_return (hintOf text) (chompingOf text) x (by simp at hx ⊢; tauto)
  have hlines : ∀ x ∈ writeLines (outer + 1) true text ++ lineEnd text, x ≠ '\r' := by
    refine List.forall_mem_append.mpr ⟨?_, ?_⟩
    · exact forall_mem_writeLines (P := (· ≠ '\r')) (by decide) (fun x hx => (hliteral x hx).1) true
    · rw [lineEnd]
      split <;> simp
  have hlast : ∃ x ∈ (writeLines (outer + 1) true text ++ lineEnd text).getLast?, isBreak x = true := by
    rw [List.getLast?_append, getLast?_writeLines, lineEnd]
    obtain ⟨x, hx⟩ := Option.ne_none_iff_exists'.mp (mt List.getLast?_eq_none_iff.mp hne)
    rw [hx, Option.any_some]
    split
    · exact ⟨x, rfl, by assumption⟩
    · exact ⟨'\n', rfl, rfl⟩
  have hline : (c.past (hintSign (hintOf text) ++ (chompingOf text).sign)).rest =
      ['\n'] ++ ((writeLines (outer + 1) true text ++ lineEnd text) ++ (spaces n ++ rest)) :=
    Cursor.rest_past (by rw [h]; simp) hsigns
  have hfirst := Cursor.rest_past hline (by simp)
  have hspaces := Cursor.rest_past hfirst hlines
  have hcolumn := Cursor.column_past_of_getLast? hfirst hlines hlast
  have hover : next = (((c.past (hintSign (hintOf text) ++ (chompingOf text).sign)).past ['\n']).past
      (writeLines (outer + 1) true text ++ lineEnd text)).past (spaces n) := by
    rw [← hnext, ← Cursor.past_append, ← Cursor.past_append, ← Cursor.past_append]
    simp
  refine ⟨?_, ?_, ?_⟩
  · rw [hover, Cursor.rest_past_spaces hspaces]
  · rw [hover, Cursor.column_past isBreak_of_mem_spaces, hcolumn, length_spaces, Nat.zero_add]
  · rw [← List.append_assoc] at h
    rw [← hnext, ← List.append_assoc]
    exact Cursor.line_lt_past h hsigns _

end Reading

end Fieldwise.Yaml
