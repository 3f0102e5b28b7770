import Fieldwise.Template.Expand

/-!
# The matches in a text

`MatchSequence` says which matches come up when a text is searched from a place on: after a match that
is not empty the search goes on at its end, and after an empty one a character further on.
`Pattern.allMatches` lists them (`matchSequence_allMatches`).

The list is in order and its members do not overlap (`pairwise_matchesFrom`): each of them begins no
earlier than the search that finds it, and the search never goes back. A match that is found where an
earlier one leaves off is never passed over (`mem_matchesFrom_of_find?`), so an empty match may stand
right behind one that is not.
-/

namespace Fieldwise.Pattern

/-- The matches that are found from the place `start` on, each from where the one before it leaves off,
until there is none or the end of the text is passed. -/
def matchesFrom (p : Pattern) (text : Array Char) (start : Nat) : List Match :=
  if start ≤ text.size then
    match _h : p.find? text start with
    | none => []
    | some m => m :: p.matchesFrom text m.resume
  else []
  termination_by text.size + 1 - start
  decreasing_by
    have := find?_bounds _h
    unfold Match.resume
    split <;> omega

/-- The matches in a text, from left to right. -/
def allMatches (p : Pattern) (text : Array Char) : List Match := p.matchesFrom text 0

/-- The matches that come up one after another when a text is searched from a place on. -/
inductive MatchSequence (p : Pattern) (text : Array Char) : Nat → List Match → Prop
  | passed {start : Nat} (h : text.size < start) : MatchSequence p text start []
  | none {start : Nat} (hs : start ≤ text.size) (h : p.find? text start = .none) :
    MatchSequence p text start []
  | nonempty {start : Nat} {m : Match} {ms : List Match} (hs : start ≤ text.size)
    (h : p.find? text start = some m) (hm : m.start < m.stop) (rest : MatchSequence p text m.stop ms) :
    MatchSequence p text start (m :: ms)
  | empty {start : Nat} {m : Match} {ms : List Match} (hs : start ≤ text.size)
    (h : p.find? text start = some m) (hm : m.start = m.stop)
    (rest : MatchSequence p text (m.stop + 1) ms) : MatchSequence p text start (m :: ms)

/-! ### Where a match leaves off -/

/-- The search never goes back behind the end of a match. -/
theorem Match.stop_le_resume (m : Match) : m.stop ≤ m.resume := by
  unfold Match.resume
  split <;> omega

/-- The search goes on behind the start of a match, also if the match is empty. -/
theorem Match.start_lt_resume {m : Match} (h : m.start ≤ m.stop) : m.start < m.resume := by
  unfold Match.resume
  split <;> omega

/-- After a match that is not empty the search goes on at its end. -/
theorem Match.resume_of_lt {m : Match} (h : m.start < m.stop) : m.resume = m.stop := by
  rw [Match.resume, if_neg (by omega)]

/-- After an empty match the search goes on a character further on. -/
theorem Match.resume_of_eq {m : Match} (h : m.start = m.stop) : m.resume = m.stop + 1 := by
  rw [Match.resume, if_pos h]

/-! ### The members of the list -/

variable {p : Pattern} {text : Array Char}

/-- A search that finds nothing ends the list. -/
theorem matchesFrom_of_find?_eq_none {start : Nat} (h : p.find? text start = none) :
    p.matchesFrom text start = [] := by
  rw [matchesFrom]
  split
  · split
    · rfl
    · rename_i m hm
      rw [h] at hm
      exact absurd hm (by simp)
  · rfl

/-- A search that finds a match puts it at the head of the list. -/
theorem matchesFrom_of_find?_eq_some {start : Nat} {m : Match} (h : p.find? text start = some m) :
    p.matchesFrom text start = m :: p.matchesFrom text m.resume := by
  have hb := find?_bounds h
  rw [matchesFrom, if_pos (by omega)]
  split
  · rename_i hm
    rw [h] at hm
    exact absurd hm (by simp)
  · rename_i m' hm
    rw [h, Option.some.injEq] at hm
    rw [hm]

/-- The list holds the matches that come up, in their order. -/
theorem matchSequence_matchesFrom (p : Pattern) (text : Array Char) (start : Nat) :
    MatchSequence p text start (p.matchesFrom text start) := by
  fun_induction matchesFrom p text start with
  | case1 start hs hm => exact .none hs hm
  | case2 start hs m hm ih =>
    rcases Nat.lt_or_eq_of_le (find?_bounds hm).2.1 with hlt | heq
    · rw [m.resume_of_lt hlt] at ih ⊢
      exact .nonempty hs hm hlt ih
    · rw [m.resume_of_eq heq] at ih ⊢
      exact .empty hs hm heq ih
  | case3 start hs => exact .passed (by omega)

theorem matchSequence_allMatches (p : Pattern) (text : Array Char) :
    MatchSequence p text 0 (p.allMatches text) := matchSequence_matchesFrom p text 0

/-- Every match lies within the text, at or behind the place where the first search began. -/
theorem bounds_of_mem_matchesFrom {start : Nat} {m : Match} (h : m ∈ p.matchesFrom text start) :
    start ≤ m.start ∧ m.start ≤ m.stop ∧ m.stop ≤ text.size := by
  fun_induction matchesFrom p text start with
  | case1 start hs hm => simp at h
  | case2 start hs m₀ hm ih =>
    have hb := find?_bounds hm
    rcases List.mem_cons.mp h with rfl | h
    · exact hb
    · have := ih h
      have := m₀.stop_le_resume
      omega
  | case3 start hs => simp at h

/-- A match begins no earlier than the place where those before it leave off. -/
theorem pairwise_matchesFrom (p : Pattern) (text : Array Char) (start : Nat) :
    (p.matchesFrom text start).Pairwise fun m m' => m.resume ≤ m'.start := by
  fun_induction matchesFrom p text start with
  | case1 start hs hm => exact List.Pairwise.nil
  | case2 start hs m hm ih =>
    rw [List.pairwise_cons]
    exact ⟨fun m' hm' => (bounds_of_mem_matchesFrom hm').1, ih⟩
  | case3 start hs => exact List.Pairwise.nil

/-- What is found where a match leaves off is a match of the list, too. -/
theorem mem_matchesFrom_of_find? {start : Nat} {m m' : Match} (hm : m ∈ p.matchesFrom text start)
    (h : p.find? text m.resume = some m') : m' ∈ p.matchesFrom text start := by
  fun_induction matchesFrom p text start with
  | case1 start hs hm₀ => simp at hm
  | case2 start hs m₀ hm₀ ih =>
    rcases List.mem_cons.mp hm with rfl | hm
    · -- the match is the first one, so the search in question is the second one
      rw [matchesFrom_of_find?_eq_some h]
      simp
    · exact List.mem_cons_of_mem _ (ih hm)
  | case3 start hs => simp at hm

end Fieldwise.Pattern
