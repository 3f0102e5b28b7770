import Fieldwise.Yaml.Cursor

/-!
# Spacing within scalars

Between the words of a plain or quoted scalar blanks stay as they are, if they are on one line. A
single line break becomes a blank; of several the first is dropped and the others stay; blanks around
breaks are dropped.
-/

namespace Fieldwise.Yaml

/-- Spacing between words: what it stands for, and whether it goes over the end of a line. -/
structure Gap where
  text : List Char
  broken : Bool

/-- What breaks stand for. -/
def foldBreaks : List Char → List Char
  | [] => []
  | first :: more => if first ≠ '\n' then first :: more else if more.isEmpty then [' '] else more

/-- Reads breaks and the blanks around them. A tab left of the column `indent` is refused. -/
def readBreaks (indent : Nat) (c : Cursor) : Option (List Char × Cursor) :=
  match _h : c.rest with
  | [] => some ([], c)
  | x :: _ =>
    if isBlank x then
      if x = '\t' ∧ c.column < indent then none else readBreaks indent (c.skip 1)
    else if isBreak x then
      (readBreaks indent c.skipLine).map fun (breaks, after) => (breakValue x :: breaks, after)
    else some ([], c)
  termination_by c.rest.length
  decreasing_by
  · exact length_skip_lt (by simp [_h]) Nat.one_pos
  · exact length_skipLine_lt (by simp [_h])

/-- Reads the spacing that comes next. -/
def readGap (indent : Nat) (c : Cursor) : Option (Gap × Cursor) :=
  let blanks := c.rest.takeWhile isBlank
  let after := c.skip blanks.length
  if after.atBreak then
    (readBreaks indent after).map fun (breaks, after) => (⟨foldBreaks breaks, true⟩, after)
  else some (⟨blanks, false⟩, after)

theorem length_readBreaks_le {indent : Nat} {c c' : Cursor} {breaks : List Char}
    (h : readBreaks indent c = some (breaks, c')) : c'.rest.length ≤ c.rest.length := by
  fun_induction readBreaks indent c generalizing breaks with
  | case1 => simp_all
  | case2 => simp at h
  | case3 c x xs hx _ _ ih => exact Nat.le_trans (ih h) (length_skip_le _ _)
  | case4 c x xs hx _ _ ih =>
    simp only [Option.map_eq_some_iff, Prod.mk.injEq, Prod.exists] at h
    obtain ⟨b, a, hb, -, rfl⟩ := h
    exact Nat.le_trans (ih hb) (Nat.le_of_lt (length_skipLine_lt (by simp [hx])))
  | case5 => simp_all

theorem length_readBreaks_lt {indent : Nat} {c c' : Cursor} {breaks : List Char}
    (hc : c.atBreak = true) (h : readBreaks indent c = some (breaks, c')) :
    c'.rest.length < c.rest.length := by
  unfold readBreaks at h
  split at h
  · rename_i hr
    simp [Cursor.atBreak, hr] at hc
  · rename_i x xs hr
    split at h
    · split at h
      · simp at h
      · exact Nat.lt_of_le_of_lt (length_readBreaks_le h) (length_skip_lt (by simp [hr]) Nat.one_pos)
    · split at h
      · simp only [Option.map_eq_some_iff, Prod.mk.injEq, Prod.exists] at h
        obtain ⟨b, a, hb, -, rfl⟩ := h
        exact Nat.lt_of_le_of_lt (length_readBreaks_le hb) (length_skipLine_lt (by simp [hr]))
      · simp [Cursor.atBreak, hr] at hc
        simp_all

theorem length_readGap_le {indent : Nat} {c c' : Cursor} {gap : Gap}
    (h : readGap indent c = some (gap, c')) : c'.rest.length ≤ c.rest.length := by
  unfold readGap at h
  simp only [] at h
  split at h
  · simp only [Option.map_eq_some_iff, Prod.mk.injEq, Prod.exists] at h
    obtain ⟨b, a, hb, -, rfl⟩ := h
    exact Nat.le_trans (length_readBreaks_le hb) (length_skip_le _ _)
  · simp only [Option.some.injEq, Prod.mk.injEq] at h
    obtain ⟨-, rfl⟩ := h
    exact length_skip_le _ _

/-- Where there is spacing, some of it is read. -/
theorem length_readGap_lt {indent : Nat} {c c' : Cursor} {gap : Gap}
    (hc : c.rest.head?.any isSpacing = true) (h : readGap indent c = some (gap, c')) :
    c'.rest.length < c.rest.length := by
  unfold readGap at h
  simp only [] at h
  split at h
  · rename_i hb
    simp only [Option.map_eq_some_iff, Prod.mk.injEq, Prod.exists] at h
    obtain ⟨b, a, hb', -, rfl⟩ := h
    exact Nat.lt_of_lt_of_le (length_readBreaks_lt hb hb') (length_skip_le _ _)
  · rename_i hb
    simp only [Option.some.injEq, Prod.mk.injEq] at h
    obtain ⟨-, rfl⟩ := h
    match hr : c.rest with
    | [] => simp [hr] at hc
    | x :: xs =>
      by_cases hx : isBlank x
      · have : 0 < (c.rest.takeWhile isBlank).length := by simp [hr, hx]
        simpa [hr] using length_skip_lt (c := c) (by simp [hr]) this
      · simp [Cursor.atBreak, Cursor.skip, hr, hx] at hb
        simp [hr, isSpacing, hx, hb] at hc

end Fieldwise.Yaml
