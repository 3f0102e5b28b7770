import Fieldwise.Pattern.Search

/-!
# What the search finds

`Program.Accepts` says from which instruction at which place a program can come to accept, and where it
then stands. It knows nothing of threads, of their order or of what has been run before.

The search finds what there is to be found and nothing else: a match that it finds is accepted from its
start to its end, no place before it is one from which there is a match (`Program.find?_eq_some`), and
where it finds none there is none (`Program.find?_eq_none`). For what is not found, the instructions that
have been run at their places are closed under what they lead to, but for the threads that are still to
be run (`Explored`). When no thread is left, nothing that has been run can lead to a match, so that the
search from later places need not run it again.
-/

namespace Fieldwise.Pattern

/-! ### What instructions lead to -/

/-- An instruction leads from a place in the text to an instruction and a place. -/
inductive Instr.Leads (text : Array Char) : Instr → (pos : Nat) → Nat × Nat → Prop
  | char {c : Char} {next pos : Nat} (h : text[pos]? = some c) :
    Leads text (.char c next) pos (next, pos + 1)
  | member {set : CharSet} {c : Char} {next pos : Nat} (h : text[pos]? = some c)
    (hset : set.contains c = true) : Leads text (.member set next) pos (next, pos + 1)
  | check {look : Look} {next pos : Nat} (h : look.holds text pos = true) :
    Leads text (.check look next) pos (next, pos)
  | mark {slot next pos : Nat} : Leads text (.mark slot next) pos (next, pos)
  | fork {targets : List Nat} {next pos : Nat} (h : next ∈ targets) :
    Leads text (.fork targets) pos (next, pos)

/-- From an instruction at a place the program can come to accept at the place `stop`. -/
inductive Program.Accepts (p : Program) (text : Array Char) : (state pos stop : Nat) → Prop
  | accept {state pos : Nat} (h : p.instrs[state]? = some .accept) : Accepts p text state pos pos
  | lead {state pos state' pos' stop : Nat} {instr : Instr} (h : p.instrs[state]? = some instr)
    (hlead : instr.Leads text pos (state', pos')) (rest : Accepts p text state' pos' stop) :
    Accepts p text state pos stop

/-- The instruction that a thread is to run, and the place where. -/
def Thread.spot {start size : Nat} (t : Thread start size) : Nat × Nat := (t.state, t.pos)

/-- The threads that continue a thread are where its instruction leads to. -/
theorem Instr.mem_map_spot_next_iff {start : Nat} {text : Array Char} {t : Thread start text.size}
    {instr : Instr} {spot : Nat × Nat} :
    spot ∈ (instr.next text t).map Thread.spot ↔ instr.Leads text t.pos spot := by
  constructor
  · intro h
    obtain ⟨t', ht', rfl⟩ := List.mem_map.mp h
    cases instr with
    | char c next =>
      simp only [Instr.next] at ht'
      split at ht'
      · rename_i hlt
        split at ht'
        · rename_i hc
          rw [List.mem_singleton] at ht'
          rw [ht']
          exact .char (by rw [Array.getElem?_eq_getElem hlt, beq_iff_eq.mp hc])
        · cases ht'
      · cases ht'
    | member set next =>
      simp only [Instr.next] at ht'
      split at ht'
      · rename_i hlt
        split at ht'
        · rename_i hset
          rw [List.mem_singleton] at ht'
          rw [ht']
          exact .member (Array.getElem?_eq_getElem hlt) hset
        · cases ht'
      · cases ht'
    | check look next =>
      simp only [Instr.next] at ht'
      split at ht'
      · rename_i hlook
        rw [List.mem_singleton] at ht'
        rw [ht']
        exact .check hlook
      · cases ht'
    | mark slot next =>
      rw [Instr.next, List.mem_singleton] at ht'
      rw [ht']
      exact .mark
    | fork targets =>
      rw [Instr.next] at ht'
      obtain ⟨next, hnext, rfl⟩ := List.mem_map.mp ht'
      exact .fork hnext
    | accept => cases ht'
  · intro h
    cases h with
    | char h =>
      obtain ⟨hlt, hc⟩ := Array.getElem?_eq_some_iff.mp h
      simp [Instr.next, hlt, hc, Thread.spot, Thread.advance]
    | member h hset =>
      obtain ⟨hlt, rfl⟩ := Array.getElem?_eq_some_iff.mp h
      simp [Instr.next, hlt, hset, Thread.spot, Thread.advance]
    | check h => simp [Instr.next, h, Thread.spot, Thread.goto]
    | mark => simp [Instr.next, Thread.spot]
    | fork h =>
      rw [Instr.next, List.map_map]
      exact List.mem_map.mpr ⟨_, h, rfl⟩

variable {p : Program} {text : Array Char} {seen seen' : Seen (p.instrs.size * (text.size + 1))}
  {state pos stop start : Nat} {spot : Nat × Nat} {pending : List (Nat × Nat)}

/-- An instruction from which the program can come to accept is one of its instructions. -/
theorem Program.Accepts.lt_size (h : p.Accepts text state pos stop) : state < p.instrs.size := by
  cases h with
  | accept h => exact (Array.getElem?_eq_some_iff.mp h).1
  | lead h => exact (Array.getElem?_eq_some_iff.mp h).1

/-- Where the program accepts, it does so at the place that it is at. -/
theorem Program.accepts_accept_iff (h : p.instrs[state]? = some .accept) :
    p.Accepts text state pos stop ↔ stop = pos := by
  constructor
  · intro haccepts
    cases haccepts with
    | accept => rfl
    | lead hinstr hlead =>
      obtain rfl := Option.some.inj (h.symm.trans hinstr)
      cases hlead
  · rintro rfl
    exact .accept h

/-- Elsewhere it can come to accept from where its instruction leads to. -/
theorem Program.accepts_iff_leads {instr : Instr} (h : p.instrs[state]? = some instr)
    (hne : instr ≠ .accept) : p.Accepts text state pos stop ↔
      ∃ state' pos', instr.Leads text pos (state', pos') ∧ p.Accepts text state' pos' stop := by
  constructor
  · intro haccepts
    cases haccepts with
    | accept haccept => exact absurd (Option.some.inj (h.symm.trans haccept)) hne
    | lead hinstr hlead rest =>
      obtain rfl := Option.some.inj (h.symm.trans hinstr)
      exact ⟨_, _, hlead, rest⟩
  · rintro ⟨state', pos', hlead, rest⟩
    exact .lead h hlead rest

/-- Behind a character that is read the program goes on. -/
theorem Program.accepts_char_iff {c : Char} {next : Nat} (h : p.instrs[state]? = some (.char c next)) :
    p.Accepts text state pos stop ↔ text[pos]? = some c ∧ p.Accepts text next (pos + 1) stop := by
  rw [Program.accepts_iff_leads h nofun]
  constructor
  · rintro ⟨_, _, hlead, rest⟩
    cases hlead with
    | char hc => exact ⟨hc, rest⟩
  · rintro ⟨hc, rest⟩
    exact ⟨next, pos + 1, .char hc, rest⟩

/-- Where an assertion holds the program goes on. -/
theorem Program.accepts_check_iff {look : Look} {next : Nat}
    (h : p.instrs[state]? = some (.check look next)) :
    p.Accepts text state pos stop ↔ look.holds text pos = true ∧ p.Accepts text next pos stop := by
  rw [Program.accepts_iff_leads h nofun]
  constructor
  · rintro ⟨_, _, hlead, rest⟩
    cases hlead with
    | check hlook => exact ⟨hlook, rest⟩
  · rintro ⟨hlook, rest⟩
    exact ⟨next, pos, .check hlook, rest⟩

/-! ### What has been run -/

/-- An instruction that has been run at a place. -/
def HasRun (p : Program) (text : Array Char) (seen : Seen (p.instrs.size * (text.size + 1)))
    (spot : Nat × Nat) : Prop :=
  ∃ (h : spot.2 ≤ text.size) (k : Fin (p.instrs.size * (text.size + 1))),
    place? p.instrs.size text.size spot.1 spot.2 h = some k ∧ seen.contains k = true

/-- The number of an instruction at a place tells both. -/
theorem eq_of_place?_eq {states size s s' q q' : Nat} {h : q ≤ size} {h' : q' ≤ size}
    {k : Fin (states * (size + 1))} (hk : place? states size s q h = some k)
    (hk' : place? states size s' q' h' = some k) : (s, q) = (s', q') := by
  unfold place? at hk hk'
  split at hk
  · split at hk'
    · have heq : s * (size + 1) + q = s' * (size + 1) + q' := by
        rw [← Fin.mk.inj (Option.some.inj (hk.trans hk'.symm))]
      have hq : q = q' := by
        have := congrArg (· % (size + 1)) heq
        simpa [Nat.mul_add_mod_of_lt, Nat.mod_eq_of_lt, Nat.lt_succ_of_le h, Nat.lt_succ_of_le h'] using this
      subst hq
      have hs : s = s' := Nat.eq_of_mul_eq_mul_right (Nat.succ_pos size) (Nat.add_right_cancel heq)
      rw [hs]
    · cases hk'
  · cases hk

/-- What is noted has been run, and so has all that had been run before. -/
theorem hasRun_insert_iff {t : Thread start text.size} {k : Fin (p.instrs.size * (text.size + 1))}
    (hk : place? p.instrs.size text.size t.state t.pos t.pos_le_size = some k) :
    HasRun p text (seen.insert k) spot ↔ spot = t.spot ∨ HasRun p text seen spot := by
  constructor
  · rintro ⟨h, k', hk', hmem⟩
    rw [Std.HashSet.contains_insert, Bool.or_eq_true, beq_iff_eq] at hmem
    rcases hmem with rfl | hmem
    · exact .inl (eq_of_place?_eq hk' hk)
    · exact .inr ⟨h, k', hk', hmem⟩
  · rintro (rfl | ⟨h, k', hk', hmem⟩)
    · exact ⟨t.pos_le_size, k, hk, by rw [Std.HashSet.contains_insert_self]⟩
    · exact ⟨h, k', hk', by rw [Std.HashSet.contains_insert, hmem, Bool.or_true]⟩

/-- None of what has been run accepts, and whatever it leads to in the program has been run too or is
pending. -/
structure Explored (p : Program) (text : Array Char) (seen : Seen (p.instrs.size * (text.size + 1)))
    (pending : List (Nat × Nat)) : Prop where
  not_accept : ∀ spot, HasRun p text seen spot → p.instrs[spot.1]? ≠ some .accept
  leads : ∀ spot spot' instr, HasRun p text seen spot → p.instrs[spot.1]? = some instr →
    instr.Leads text spot.2 spot' → spot'.1 < p.instrs.size → HasRun p text seen spot' ∨ spot' ∈ pending

/-- Nothing has been run yet. -/
theorem explored_empty (p : Program) (text : Array Char) : Explored p text ∅ [] := by
  have hnone : ∀ spot, ¬HasRun p text ∅ spot := by
    rintro spot ⟨h, k, -, hmem⟩
    rw [Std.HashSet.contains_empty] at hmem
    cases hmem
  exact ⟨fun spot h => absurd h (hnone spot), fun spot _ _ h => absurd h (hnone spot)⟩

theorem Explored.mono {pending' : List (Nat × Nat)} (h : Explored p text seen pending)
    (hsub : ∀ spot ∈ pending, spot.1 < p.instrs.size → HasRun p text seen spot ∨ spot ∈ pending') :
    Explored p text seen pending' where
  not_accept := h.not_accept
  leads := by
    intro spot spot' instr hrun hinstr hlead hlt
    rcases h.leads spot spot' instr hrun hinstr hlead hlt with hrun' | hmem
    · exact .inl hrun'
    · exact hsub spot' hmem hlt

/-- A first pending place that has been run, or lies outside the program, need not be pending. -/
theorem hasRun_or_pending_of_cons {first spot : Nat × Nat}
    (hfirst : first.1 < p.instrs.size → HasRun p text seen first)
    (h : HasRun p text seen spot ∨ spot ∈ first :: pending ∧ spot.1 < p.instrs.size) :
    HasRun p text seen spot ∨ spot ∈ pending ∧ spot.1 < p.instrs.size := by
  rcases h with hrun | ⟨hmem, hlt⟩
  · exact .inl hrun
  · rcases List.mem_cons.mp hmem with rfl | hmem
    · exact .inl (hfirst hlt)
    · exact .inr ⟨hmem, hlt⟩

theorem Explored.tail {first : Nat × Nat} (h : Explored p text seen (first :: pending))
    (hfirst : first.1 < p.instrs.size → HasRun p text seen first) :
    Explored p text seen pending :=
  h.mono fun _ hmem hlt =>
    (hasRun_or_pending_of_cons hfirst (.inr ⟨hmem, hlt⟩)).imp_right And.left

/-- Where nothing is pending, what has been run does not lead to a match. -/
theorem Explored.not_accepts (h : Explored p text seen []) (hrun : HasRun p text seen (state, pos)) :
    ¬p.Accepts text state pos stop := by
  intro haccepts
  induction haccepts with
  | accept hinstr => exact h.not_accept _ hrun hinstr
  | @lead state pos state' pos' stop instr hinstr hlead rest ih =>
    rcases h.leads _ _ instr hrun hinstr hlead rest.lt_size with hrun' | hmem
    · exact ih hrun'
    · cases hmem

/-- Running an instruction at a place makes what it leads to pending. -/
theorem Explored.insert {t : Thread start text.size} {k : Fin (p.instrs.size * (text.size + 1))}
    {instr : Instr} (h : Explored p text seen (t.spot :: pending))
    (hk : place? p.instrs.size text.size t.state t.pos t.pos_le_size = some k)
    (hinstr : p.instrs[t.state]? = some instr) (haccept : instr ≠ .accept) :
    Explored p text (seen.insert k) ((instr.next text t).map Thread.spot ++ pending) where
  not_accept := by
    intro spot hrun
    rcases (hasRun_insert_iff hk).mp hrun with rfl | hrun
    · rw [Thread.spot, hinstr, Ne, Option.some.injEq]
      exact haccept
    · exact h.not_accept spot hrun
  leads := by
    intro spot spot' instr' hrun hinstr' hlead hlt
    rw [hasRun_insert_iff hk, List.mem_append]
    rcases (hasRun_insert_iff hk).mp hrun with rfl | hrun
    · obtain rfl := Option.some.inj (hinstr.symm.trans hinstr')
      exact .inr (.inl (Instr.mem_map_spot_next_iff.mpr hlead))
    · rcases h.leads spot spot' instr' hrun hinstr' hlead hlt with hrun' | hmem
      · exact .inl (.inr hrun')
      · rcases List.mem_cons.mp hmem with rfl | hmem
        · exact .inl (.inl rfl)
        · exact .inr (.inr hmem)

/-! ### Running threads -/

/-- A thread that comes to accept continues one of the threads to run. -/
theorem Program.accepts_of_run {threads : List (Thread start text.size)} {t : Thread start text.size}
    (h : p.run text seen threads = (some t, seen')) :
    ∃ spot ∈ threads.map Thread.spot, p.Accepts text spot.1 spot.2 t.pos := by
  fun_induction Program.run p text seen threads with
  | case1 => cases h
  | case2 seen t₀ rest hk ih =>
    obtain ⟨spot, hmem, haccepts⟩ := ih h
    exact ⟨spot, List.mem_cons_of_mem _ hmem, haccepts⟩
  | case3 seen t₀ rest k hk hseen ih =>
    obtain ⟨spot, hmem, haccepts⟩ := ih h
    exact ⟨spot, List.mem_cons_of_mem _ hmem, haccepts⟩
  | case4 seen t₀ rest k hk hseen hinstr =>
    obtain rfl := Option.some.inj (Prod.mk.inj h).1
    exact ⟨t₀.spot, List.mem_cons_self, .accept hinstr⟩
  | case5 seen t₀ rest k hk hseen instr haccept hinstr ih =>
    obtain ⟨spot, hmem, haccepts⟩ := ih h
    rw [List.map_append, List.mem_append] at hmem
    rcases hmem with hmem | hmem
    · exact ⟨t₀.spot, List.mem_cons_self,
        .lead hinstr (Instr.mem_map_spot_next_iff.mp hmem) haccepts⟩
    · exact ⟨spot, List.mem_cons_of_mem _ hmem, haccepts⟩
  | case6 seen t₀ rest k hk hseen hinstr ih =>
    obtain ⟨spot, hmem, haccepts⟩ := ih h
    exact ⟨spot, List.mem_cons_of_mem _ hmem, haccepts⟩

/-- When no thread comes to accept, all of them have been run, and nothing is pending. -/
theorem Program.explored_of_run {threads : List (Thread start text.size)}
    (hexplored : Explored p text seen (threads.map Thread.spot))
    (h : p.run text seen threads = (none, seen')) :
    Explored p text seen' [] ∧ ∀ spot, HasRun p text seen spot ∨
      spot ∈ threads.map Thread.spot ∧ spot.1 < p.instrs.size → HasRun p text seen' spot := by
  fun_induction Program.run p text seen threads with
  | case1 seen =>
    obtain rfl := (Prod.mk.inj h).2
    refine ⟨hexplored, ?_⟩
    rintro spot (hrun | ⟨hmem, -⟩)
    · exact hrun
    · cases hmem
  | case2 seen t rest hk ih =>
    -- the thread has left the program
    have hfirst : t.spot.1 < p.instrs.size → HasRun p text seen t.spot := by
      intro (hlt : t.state < p.instrs.size)
      rw [place?, dif_pos hlt] at hk
      cases hk
    obtain ⟨hexplored', hall⟩ := ih (hexplored.tail hfirst) h
    exact ⟨hexplored', fun spot hspot => hall spot (hasRun_or_pending_of_cons hfirst hspot)⟩
  | case3 seen t rest k hk hseen ih =>
    have hfirst : t.spot.1 < p.instrs.size → HasRun p text seen t.spot :=
      fun _ => ⟨t.pos_le_size, k, hk, hseen⟩
    obtain ⟨hexplored', hall⟩ := ih (hexplored.tail hfirst) h
    exact ⟨hexplored', fun spot hspot => hall spot (hasRun_or_pending_of_cons hfirst hspot)⟩
  | case4 => cases h
  | case5 seen t rest k hk hseen instr haccept hinstr ih =>
    have hnext := hexplored.insert hk hinstr haccept
    rw [← List.map_append] at hnext
    obtain ⟨hexplored', hall⟩ := ih hnext h
    refine ⟨hexplored', ?_⟩
    rintro spot (hrun | ⟨hmem, hlt⟩)
    · exact hall spot (.inl ((hasRun_insert_iff hk).mpr (.inr hrun)))
    · rcases List.mem_cons.mp hmem with rfl | hmem
      · exact hall _ (.inl ((hasRun_insert_iff hk).mpr (.inl rfl)))
      · refine hall spot (.inr ⟨?_, hlt⟩)
        rw [List.map_append]
        exact List.mem_append_right _ hmem
  | case6 seen t rest k hk hseen hinstr =>
    -- an instruction that has a number is there
    unfold place? at hk
    split at hk
    · rename_i hlt
      rw [Array.getElem?_eq_getElem hlt] at hinstr
      cases hinstr
    · cases hk

/-! ### Looking for matches -/

/-- Where the thread that begins at a place comes to nothing, no match begins there. -/
theorem Program.not_accepts_of_run (hexplored : Explored p text seen []) {hs : start ≤ text.size}
    (h : p.run text seen [⟨p.entry, start, Nat.le_refl _, hs, []⟩] = (none, seen')) :
    Explored p text seen' [] ∧ ∀ stop, ¬p.Accepts text p.entry start stop := by
  obtain ⟨hexplored', hall⟩ := explored_of_run (hexplored.mono fun _ hmem => nomatch hmem) h
  refine ⟨hexplored', fun stop haccepts => ?_⟩
  exact hexplored'.not_accepts (hall _ (.inr ⟨List.mem_cons_self, haccepts.lt_size⟩)) haccepts

theorem Program.findFrom_eq_some (hexplored : Explored p text seen []) {m : Match}
    (h : p.findFrom text seen start = some m) :
    p.Accepts text p.entry m.start m.stop ∧
      ∀ i, start ≤ i → i < m.start → ∀ stop, ¬p.Accepts text p.entry i stop := by
  fun_induction Program.findFrom p text seen start with
  | case1 seen start hs t seen' hrun =>
    obtain rfl := Option.some.inj h
    obtain ⟨spot, hspot, haccepts⟩ := accepts_of_run hrun
    obtain rfl := List.mem_singleton.mp hspot
    exact ⟨haccepts, fun i hle hlt => absurd hle (Nat.not_le_of_lt hlt)⟩
  | case2 seen start hs seen' hrun ih =>
    obtain ⟨hexplored', hnone⟩ := not_accepts_of_run hexplored hrun
    obtain ⟨haccepts, hfirst⟩ := ih hexplored' h
    refine ⟨haccepts, fun i hle hlt => ?_⟩
    rcases Nat.eq_or_lt_of_le hle with rfl | hle
    · exact hnone
    · exact hfirst i hle hlt
  | case3 => cases h

theorem Program.findFrom_eq_none (hexplored : Explored p text seen [])
    (h : p.findFrom text seen start = none) :
    ∀ i, start ≤ i → i ≤ text.size → ∀ stop, ¬p.Accepts text p.entry i stop := by
  fun_induction Program.findFrom p text seen start with
  | case1 => cases h
  | case2 seen start hs seen' hrun ih =>
    obtain ⟨hexplored', hnone⟩ := not_accepts_of_run hexplored hrun
    intro i hle hi
    rcases Nat.eq_or_lt_of_le hle with rfl | hle
    · exact hnone
    · exact ih hexplored' h i hle hi
  | case3 seen start hs => exact fun i hle hi => absurd (Nat.le_trans hle hi) hs

/-- A match that is found is one, and none begins before it that the search could have come upon. -/
theorem Program.find?_eq_some {m : Match} (h : p.find? text start = some m) :
    p.Accepts text p.entry m.start m.stop ∧
      ∀ i, start ≤ i → i < m.start → ∀ stop, ¬p.Accepts text p.entry i stop :=
  findFrom_eq_some (explored_empty p text) h

/-- Where nothing is found there is no match. -/
theorem Program.find?_eq_none (h : p.find? text start = none) :
    ∀ i, start ≤ i → i ≤ text.size → ∀ stop, ¬p.Accepts text p.entry i stop :=
  findFrom_eq_none (explored_empty p text) h

end Fieldwise.Pattern
