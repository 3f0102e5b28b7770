import Std.Data.HashSet
import Fieldwise.Pattern.Program
import Fieldwise.Unicode.Class

/-!
# Looking for matches

`Program.find?` looks for the first match in a text at or after a place. The threads of a program
that begin at one place are run depth first, the preferred one before the others, so that the first
thread to accept is the match. No instruction is run twice at one place: what a thread can reach
from there does not depend on how it came there, and an earlier thread has already reached it.

Places in a text are counted in characters. Assertions look at the whole text, also where the search
begins in the middle of it.
-/

namespace Fieldwise.Pattern

/-! ### Assertions -/

/-- Whether the characters before and after a place belong to words. -/
def wordSides (ascii : Bool) (text : Array Char) (pos : Nat) : Bool × Bool :=
  let isWordChar := if ascii then isAsciiWord else isWord
  ((if pos = 0 then none else text[pos - 1]?).any isWordChar, text[pos]?.any isWordChar)

/-- Whether an assertion holds at a place. -/
def Look.holds (text : Array Char) (pos : Nat) : Look → Bool
  | .textStart => pos == 0
  | .textEnd => pos == text.size
  | .lineStart crlf =>
    pos == 0 || text[pos - 1]? == some '\n' ||
      (crlf && text[pos - 1]? == some '\r' && text[pos]? != some '\n')
  | .lineEnd crlf =>
    pos == text.size ||
      if crlf then
        text[pos]? == some '\r' ||
          (text[pos]? == some '\n' && (pos == 0 || text[pos - 1]? != some '\r'))
      else text[pos]? == some '\n'
  | .wordBoundary ascii => let (a, b) := wordSides ascii text pos; a != b
  | .notWordBoundary ascii => let (a, b) := wordSides ascii text pos; a == b
  | .wordStart ascii => let (a, b) := wordSides ascii text pos; !a && b
  | .wordEnd ascii => let (a, b) := wordSides ascii text pos; a && !b
  | .wordStartHalf ascii => !(wordSides ascii text pos).1
  | .wordEndHalf ascii => !(wordSides ascii text pos).2

/-! ### Threads -/

/-- A thread that began at the place `start` of a text of `size` characters: the instruction that it
is to run, the place that it has reached, and the places that it has marked, the last one first. -/
structure Thread (start size : Nat) where
  state : Nat
  pos : Nat
  start_le_pos : start ≤ pos
  pos_le_size : pos ≤ size
  marks : List (Nat × Nat)

/-- The thread at another instruction. -/
def Thread.goto {start size : Nat} (t : Thread start size) (state : Nat) : Thread start size :=
  { t with state }

/-- The thread after a character. -/
def Thread.advance {start size : Nat} (t : Thread start size) (state : Nat) (h : t.pos < size) :
    Thread start size :=
  { t with
    state
    pos := t.pos + 1
    start_le_pos := Nat.le_succ_of_le t.start_le_pos
    pos_le_size := h }

/-- The threads that continue a thread after an instruction, the preferred one first. -/
def Instr.next {start : Nat} (text : Array Char) (t : Thread start text.size) :
    Instr → List (Thread start text.size)
  | .char c state =>
    if h : t.pos < text.size then
      if text[t.pos] == c then [t.advance state h] else []
    else []
  | .member set state =>
    if h : t.pos < text.size then
      if set.contains text[t.pos] then [t.advance state h] else []
    else []
  | .check look state => if look.holds text t.pos then [t.goto state] else []
  | .mark slot state => [{ t with state, marks := (slot, t.pos) :: t.marks }]
  | .fork targets => targets.map t.goto
  | .accept => []

/-! ### What has been run -/

/-- The instructions that have been run, each together with the place where: an instruction and a
place are one number below the product of their bounds. -/
abbrev Seen (bound : Nat) := Std.HashSet (Fin bound)

/-- A list without duplicates of numbers below a bound is no longer than the bound. -/
theorem length_le_of_nodup (n : Nat) (l : List Nat) (hl : l.Nodup) (h : ∀ x ∈ l, x < n) :
    l.length ≤ n := by
  induction n generalizing l with
  | zero =>
    cases l with
    | nil => simp
    | cons a l => exact absurd (h a (by simp)) (Nat.not_lt_zero a)
  | succ n ih =>
    have h' : ∀ x ∈ l.erase n, x < n := fun x hx => by
      have hne : x ≠ n := fun he => by
        rw [he] at hx
        exact (List.Nodup.not_mem_erase hl) hx
      have := h x (List.mem_of_mem_erase hx)
      omega
    have hlen := ih (l.erase n) (hl.erase n) h'
    have : l.length ≤ (l.erase n).length + 1 := by
      rw [List.length_erase]
      split <;> omega
    omega

theorem Seen.size_le {bound : Nat} (s : Seen bound) : s.size ≤ bound := by
  have hd := Std.HashSet.distinct_toList (m := s)
  have hn : (s.toList.map Fin.val).Nodup := by
    rw [List.nodup_iff_pairwise_ne, List.pairwise_map]
    refine hd.imp fun {a b} h he => ?_
    simp [Fin.ext_iff, he] at h
  have := length_le_of_nodup bound (s.toList.map Fin.val) hn (by
    intro x hx
    obtain ⟨y, -, rfl⟩ := List.mem_map.mp hx
    exact y.isLt)
  simpa using this

/-- Noting what has not been seen before leaves less to see. -/
theorem Seen.insert_lt {bound : Nat} {s : Seen bound} {k : Fin bound} (h : s.contains k = false) :
    bound - (s.insert k).size < bound - s.size := by
  have h₁ := Seen.size_le (s.insert k)
  have h₂ : (s.insert k).size = s.size + 1 := by
    rw [Std.HashSet.size_insert]
    simp [← Std.HashSet.contains_iff_mem, h]
  omega

/-- The number of an instruction at a place. -/
def place? (states size state pos : Nat) (h : pos ≤ size) : Option (Fin (states * (size + 1))) :=
  if hs : state < states then
    some ⟨state * (size + 1) + pos, by
      calc state * (size + 1) + pos < state * (size + 1) + (size + 1) := by omega
        _ = (state + 1) * (size + 1) := (Nat.succ_mul _ _).symm
        _ ≤ states * (size + 1) := Nat.mul_le_mul_right _ hs⟩
  else none

/-! ### The search -/

/-- Runs threads, the first one before the others, until one accepts. Yields it, and what has been
run by then. -/
def Program.run (p : Program) (text : Array Char) {start : Nat}
    (seen : Seen (p.instrs.size * (text.size + 1))) (threads : List (Thread start text.size)) :
    Option (Thread start text.size) × Seen (p.instrs.size * (text.size + 1)) :=
  match threads with
  | [] => (none, seen)
  | t :: rest =>
    match place? p.instrs.size text.size t.state t.pos t.pos_le_size with
    | none => p.run text seen rest
    | some k =>
      match _h : seen.contains k with
      | true => p.run text seen rest
      | false =>
        match p.instrs[t.state]? with
        | some .accept => (some t, seen.insert k)
        | some instr => p.run text (seen.insert k) (instr.next text t ++ rest)
        | none => p.run text (seen.insert k) rest
  termination_by (p.instrs.size * (text.size + 1) - seen.size, threads.length)
  decreasing_by
  · exact Prod.Lex.right _ (by simp)
  · exact Prod.Lex.right _ (by simp)
  · exact Prod.Lex.left _ _ (Seen.insert_lt _h)
  · exact Prod.Lex.left _ _ (Seen.insert_lt _h)

/-- A match in a text: where it begins and ends, and what was marked on the way, the last mark
first. -/
structure Match where
  start : Nat
  stop : Nat
  marks : List (Nat × Nat)
  deriving BEq, DecidableEq, Repr

/-- The place and the extent of a capture group in a match, if the group took part. Group 0 is the
match as a whole. -/
def Match.group? (m : Match) : Nat → Option (Nat × Nat)
  | 0 => some (m.start, m.stop)
  | n + 1 => do return (← m.marks.lookup (2 * (n + 1)), ← m.marks.lookup (2 * (n + 1) + 1))

/-- The first match that begins at the place `start` or later. What has been run from earlier places
need not be run again, since it led to no match. -/
def Program.findFrom (p : Program) (text : Array Char)
    (seen : Seen (p.instrs.size * (text.size + 1))) (start : Nat) : Option Match :=
  if h : start ≤ text.size then
    match p.run text seen [⟨p.entry, start, Nat.le_refl _, h, []⟩] with
    | (some t, _) => some ⟨start, t.pos, t.marks⟩
    | (none, seen) => p.findFrom text seen (start + 1)
  else none
  termination_by text.size + 1 - start

/-- The first match in a text that begins at the place `start` or later. -/
def Program.find? (p : Program) (text : Array Char) (start : Nat) : Option Match :=
  p.findFrom text ∅ start

/-- A match lies within the text, at or after the place where the search began. -/
theorem Program.findFrom_bounds {p : Program} {text : Array Char} {seen} {start : Nat} {m : Match}
    (h : p.findFrom text seen start = some m) :
    start ≤ m.start ∧ m.start ≤ m.stop ∧ m.stop ≤ text.size := by
  fun_induction Program.findFrom p text seen start with
  | case1 seen start hs t _ hrun =>
    simp only [Option.some.injEq] at h
    subst h
    exact ⟨Nat.le_refl _, t.start_le_pos, t.pos_le_size⟩
  | case2 seen start hs seen' hrun ih =>
    have := ih h
    omega
  | case3 => simp at h

theorem Program.find?_bounds {p : Program} {text : Array Char} {start : Nat} {m : Match}
    (h : p.find? text start = some m) :
    start ≤ m.start ∧ m.start ≤ m.stop ∧ m.stop ≤ text.size :=
  findFrom_bounds h

end Fieldwise.Pattern
