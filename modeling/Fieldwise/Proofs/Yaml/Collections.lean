import Fieldwise.Proofs.Yaml.Structure

/-!
# The tokens of collections

A piece of a written text takes the scan from one line, or from the middle of it, to another one
(`Scan.Takes`). Pieces can be put one after another, and so members, sequences and in the end whole texts are
put together from scalars and keys.
-/

namespace Fieldwise.Yaml

/-- The tokens of a text as it is written. -/
def textKinds (text : String) : List TokenKind := [.scalar text.toList (Scan.styleOf text.toList)]

namespace Scan

/-- A piece of a text, from a column within some collections, where a key may begin: the tokens that it adds,
and the column and the collections after it. -/
structure Takes (written : List Char) (column : Nat) (levels : List Nat) (added : List TokenKind) (column' : Nat)
    (levels' : List Nat) : Prop where
  isPrintable_of_mem : ∀ x ∈ written, isPrintable x = true
  startsToken {rest : List Char} : StartsToken rest → StartsToken (written ++ rest)
  reaches {s : Scan} {rest : List Char} {ks : List TokenKind} :
    s.Before (written ++ rest) column ks levels true → StartsToken rest →
      ∃ s', s.Reaches s' ∧ s'.Before rest column' (ks ++ added) levels' true

section

variable {w w₁ w₂ : List Char} {c c₁ c₂ n : Nat} {l l₁ l₂ levels : List Nat} {ks ks₁ ks₂ : List TokenKind}

theorem Takes.nil (c : Nat) (l : List Nat) : Takes [] c l [] c l where
  isPrintable_of_mem := nofun
  startsToken := id
  reaches {s _ _} h _ := ⟨s, .refl s, by rwa [List.append_nil]⟩

theorem Takes.append (h₁ : Takes w₁ c l ks₁ c₁ l₁) (h₂ : Takes w₂ c₁ l₁ ks₂ c₂ l₂) :
    Takes (w₁ ++ w₂) c l (ks₁ ++ ks₂) c₂ l₂ where
  isPrintable_of_mem := List.forall_mem_append.mpr ⟨h₁.isPrintable_of_mem, h₂.isPrintable_of_mem⟩
  startsToken hrest := by
    rw [List.append_assoc]
    exact h₁.startsToken (h₂.startsToken hrest)
  reaches h hrest := by
    rw [List.append_assoc] at h
    obtain ⟨s₁, hreaches₁, hbefore₁⟩ := h₁.reaches h (h₂.startsToken hrest)
    obtain ⟨s₂, hreaches₂, hbefore₂⟩ := h₂.reaches hbefore₁ hrest
    rw [List.append_assoc] at hbefore₂
    exact ⟨s₂, hreaches₁.trans hreaches₂, hbefore₂⟩

/-! ### Texts -/

theorem startsToken_cons {x : Char} (hspacing : isSpacing x = false) (hhash : x ≠ '#')
    (hprintable : isPrintable x = true) (rest : List Char) : StartsToken (x :: rest) := by
  refine ⟨startsWord_cons.mpr hspacing, fun y hy => ?_⟩
  cases hy
  refine ⟨hhash, ?_⟩
  rintro rfl
  exact absurd hprintable (by decide)

theorem startsToken_writeScalar (indent : Nat) (text : String) (rest : List Char) :
    StartsToken (writeScalar indent text ++ rest) := by
  have hprintable := isPrintable_writeScalar indent text
  rw [writeScalar] at hprintable ⊢
  generalize text.toList = text at *
  cases hform : formOf text with
  | plain =>
    obtain ⟨hambiguous, -⟩ := formOf_eq_plain hform
    cases text with
    | nil => exact absurd hambiguous (by decide)
    | cons x xs =>
      have hbegins := beginsPlain_of_formOf hform
      refine startsToken_cons hbegins.not_spacing ?_ (hprintable x (by simp [hform, writeAs])) _
      rintro rfl
      exact hbegins.not_mem (by decide)
  | single => exact startsToken_cons (by decide) (by decide) (by decide) _
  | double => exact startsToken_cons (by decide) (by decide) (by decide) _
  | literal => exact startsToken_cons (by decide) (by decide) (by decide) _

theorem IsName.isPrintable_of_mem {name : List Char} (h : IsName name) : ∀ x ∈ name, isPrintable x = true := by
  intro x hx
  rcases h.isAlpha_or x hx with halpha | rfl
  · simp only [Char.isAlpha, Char.isUpper, Char.isLower, Bool.or_eq_true, Bool.and_eq_true, decide_eq_true_eq,
      UInt32.le_iff_toNat_le, ge_iff_le, Char.reduceVal, UInt32.reduceToNat] at halpha
    have hbounds : 0x20 ≤ x.toNat ∧ x.toNat ≤ 0x7E := by
      show 0x20 ≤ x.val.toNat ∧ x.val.toNat ≤ 0x7E
      omega
    simp [isPrintable, hbounds]
  · decide

theorem IsName.startsToken {name : List Char} (h : IsName name) (rest : List Char) : StartsToken (name ++ rest) := by
  obtain ⟨x, xs, rfl⟩ := List.exists_cons_of_ne_nil h.ne_nil
  exact startsToken_cons (h.not_spacing x List.mem_cons_self) (h.ne List.mem_cons_self (by decide) (by decide))
    (h.isPrintable_of_mem x List.mem_cons_self) _

/-- An entry that is a text. -/
theorem takes_scalar (text : String) : Takes (writeScalar 2 text) 2 [1] (textKinds text) 0 [1] where
  isPrintable_of_mem := isPrintable_writeScalar 2 text
  startsToken _ := startsToken_writeScalar 2 text _
  reaches h hrest := scan_scalar (n := 0) h Nat.one_pos (by decide) hrest

/-- An entry behind its hyphen. -/
theorem Takes.entry (h : Takes w 2 [1] ks 0 [1]) : Takes ('-' :: ' ' :: w) 0 [1] (.blockEntry :: ks) 0 [1] where
  isPrintable_of_mem := List.forall_mem_cons.mpr ⟨by decide, List.forall_mem_cons.mpr
    ⟨by decide, h.isPrintable_of_mem⟩⟩
  startsToken _ := startsToken_cons (by decide) (by decide) (by decide) _
  reaches hbefore hrest := by
    obtain ⟨s₁, hreaches₁, hbefore₁⟩ := scan_entry hbefore rfl (h.startsToken hrest)
    obtain ⟨s₂, hreaches₂, hbefore₂⟩ := h.reaches hbefore₁ hrest
    rw [List.append_assoc] at hbefore₂
    exact ⟨s₂, hreaches₁.trans hreaches₂, hbefore₂⟩

/-- A member whose value is a text, with the indentation of the next line. -/
theorem takes_member {column : Nat} {name : String} (hname : IsName name.toList) (text : String)
    (hlevels : keyLevels column levels = (column + 1) :: l) (hn : n < column + 1) :
    Takes (writeMember column name text ++ spaces n) column levels
      (keyKinds (levels.headD 0 ≤ column) name.toList ++
        (textKinds text ++ blockEnds (ended (n + 1) ((column + 1) :: l))))
      n (((column + 1) :: l).drop (ended (n + 1) ((column + 1) :: l))) where
  isPrintable_of_mem := List.forall_mem_append.mpr ⟨List.forall_mem_append.mpr ⟨hname.isPrintable_of_mem,
    List.forall_mem_cons.mpr ⟨by decide, List.forall_mem_cons.mpr ⟨by decide, isPrintable_writeScalar _ text⟩⟩⟩,
    fun x hx => by rw [mem_spaces hx]; decide⟩
  startsToken _ := by
    rw [writeMember, List.append_assoc, List.append_assoc]
    exact hname.startsToken _
  reaches {s rest ks} h hrest := by
    have hwritten : writeMember column name text ++ spaces n ++ rest =
        name.toList ++ ':' :: ' ' :: (writeScalar (column + 1 + 1) text ++ (spaces n ++ rest)) := by
      simp [writeMember]
    rw [hwritten] at h
    obtain ⟨s₁, hreaches₁, hdone, hat⟩ := scan_key hname h rfl (headD_le_of_keyLevels hlevels)
    rw [hlevels] at hat
    have hbefore₁ := hat.before_space hdone (startsToken_writeScalar _ _ _) (by simp; omega)
    obtain ⟨s₂, hreaches₂, hbefore₂⟩ := scan_scalar hbefore₁ hn (by omega) hrest
    rw [List.append_assoc] at hbefore₂
    exact ⟨s₂, hreaches₁.trans hreaches₂, hbefore₂⟩

/-- The first member of an entry, after which another one comes. -/
theorem takes_firstMember {name : String} (hname : IsName name.toList) (text : String) :
    Takes (writeMember 2 name text ++ spaces 2) 2 [1] (keyKinds true name.toList ++ textKinds text) 2 [3, 1] := by
  have h := takes_member (n := 2) hname text (show keyLevels 2 [1] = (2 + 1) :: [1] from rfl) (by decide)
  simpa [ended, blockEnds] using h

/-- Another member of it, after which yet another one comes. -/
theorem takes_nextMember {name : String} (hname : IsName name.toList) (text : String) :
    Takes (writeMember 2 name text ++ spaces 2) 2 [3, 1] (keyKinds false name.toList ++ textKinds text) 2 [3, 1] := by
  have h := takes_member (n := 2) hname text (show keyLevels 2 [3, 1] = (2 + 1) :: [1] from rfl) (by decide)
  simpa [ended, blockEnds] using h

/-- The last member of it, with which the mapping ends. -/
theorem takes_lastMember {name : String} (hname : IsName name.toList) (text : String) :
    Takes (writeMember 2 name text) 2 [3, 1] (keyKinds false name.toList ++ textKinds text ++ [.blockEnd]) 0 [1] := by
  have h := takes_member (n := 0) hname text (show keyLevels 2 [3, 1] = (2 + 1) :: [1] from rfl) (by decide)
  simpa [ended, blockEnds, spaces] using h

/-! ### Sequences -/

section

variable {α : Type} {write : α → List Char} {kinds : α → List TokenKind} {elements : List α} {name : String}

theorem takes_entries (h : ∀ e ∈ elements, Takes (write e) 2 [1] (kinds e) 0 [1]) :
    Takes (elements.flatMap fun e => '-' :: ' ' :: write e) 0 [1] (elements.flatMap fun e => .blockEntry :: kinds e) 0
      [1] := by
  induction elements with
  | nil => exact .nil 0 [1]
  | cons e elements ih =>
    obtain ⟨he, helements⟩ := List.forall_mem_cons.mp h
    exact he.entry.append (ih helements)

theorem isPrintable_writeElements (h : ∀ e ∈ elements, Takes (write e) 2 [1] (kinds e) 0 [1]) :
    ∀ x ∈ writeElements write elements, isPrintable x = true := by
  rw [writeElements]
  split
  · exact List.all_eq_true.mp (by decide)
  · exact List.forall_mem_cons.mpr ⟨by decide, (takes_entries h).isPrintable_of_mem⟩

/-- **Sequences.** A member of the outermost mapping whose value is a sequence. -/
theorem takes_sequence (hname : IsName name.toList)
    (h : ∀ e ∈ elements, Takes (write e) 2 [1] (kinds e) 0 [1])
    (hlevels : keyLevels 0 levels = [1]) :
    Takes (writeSequence name write elements) 0 levels
      (keyKinds (levels.headD 0 ≤ 0) name.toList ++ sequenceKinds (elements.map kinds)) 0 [1] where
  isPrintable_of_mem := List.forall_mem_append.mpr ⟨hname.isPrintable_of_mem,
    List.forall_mem_cons.mpr ⟨by decide, isPrintable_writeElements h⟩⟩
  startsToken _ := by
    rw [writeSequence, List.append_assoc]
    exact hname.startsToken _
  reaches {s rest ks} hbefore hrest := by
    rw [writeSequence, List.append_assoc, List.cons_append] at hbefore
    have hword : endsWord (writeElements write elements ++ rest) = true := by
      rw [writeElements]
      split <;> rfl
    obtain ⟨s₁, hreaches₁, hdone, hat⟩ := scan_key hname hbefore hword (headD_le_of_keyLevels hlevels)
    rw [hlevels] at hat
    -- the entries begin on the next line; if there are none, brackets stand behind the key
    cases elements with
    | nil =>
      have hbefore₁ := hat.before_space hdone (startsToken_cons (by decide) (by decide) (by decide) _) (by simp)
      obtain ⟨s₂, hreaches₂, hbefore₂⟩ := scan_emptySequence hbefore₁ hrest (by simp)
      rw [List.append_assoc] at hbefore₂
      exact ⟨s₂, hreaches₁.trans hreaches₂, hbefore₂⟩
    | cons e elements =>
      have hbefore₁ := hat.before_newline hdone ((takes_entries h).startsToken hrest) (by simp)
      obtain ⟨s₂, hreaches₂, hbefore₂⟩ := (takes_entries h).reaches hbefore₁ hrest
      rw [List.append_assoc] at hbefore₂
      rw [sequenceKinds_map_cons]
      exact ⟨s₂, hreaches₁.trans hreaches₂, hbefore₂⟩

end

/-! ### Whole texts -/

theorem before_start (h : StartsToken w) : (start w).Before w 0 [] [] true :=
  before_of_skipSpacing (s := start w) rfl rfl (skipSpacing_spaces (n := 0) false true rfl h) (Nat.le_refl _) nofun

/-- **Texts.** The tokens of a text that begins a mapping which ends with it. -/
theorem map_kind_scan (h : Takes w 0 [] ks 0 [1]) :
    (Token.scan w).map Token.kind = ks ++ [.blockEnd, .streamEnd] := by
  have hnil : StartsToken [] := ⟨nofun, nofun⟩
  have hallowed : w.all isAllowed = true :=
    List.all_eq_true.mpr fun x hx => isAllowed_of_isPrintable (h.isPrintable_of_mem x hx)
  have hstart : (start w).Before (w ++ []) 0 [] [] true := by
    rw [List.append_nil]
    exact before_start (List.append_nil w ▸ h.startsToken hnil)
  obtain ⟨s, ⟨n, hn, hrun⟩, hbefore⟩ := h.reaches hstart hnil
  -- the text takes no more steps than it has characters, and its end takes two
  have hlength : n ≤ w.length := Nat.le_trans (Nat.le_add_right n _) hn
  have hsteps : w.length + 2 = w.length - n + 2 + n := by omega
  rw [Token.scan, if_pos hallowed, hsteps, hrun, map_kind_run hbefore]
  simp [blockEnds, ended]

end

end Scan

end Fieldwise.Yaml
