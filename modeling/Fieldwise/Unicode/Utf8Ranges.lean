import Std.Data.HashMap

/-!
# Ranges of characters as ranges of bytes

A range of code points is the union of a few sequences of byte ranges: each sequence stands for the
UTF-8 texts whose first byte lies in the first range, whose second byte lies in the second, and so
on. `byteSequences` finds the sequences, and `sharedSuffixes` counts the states of the automaton that
reads them, in which sequences that end alike share their ends.
-/

namespace Fieldwise

/-- A range of bytes, or of code points. -/
abbrev Range := Nat × Nat

/-- The bytes of a code point in UTF-8. -/
def encodePoint (c : Nat) : List Nat :=
  if c < 0x80 then [c]
  else if c < 0x800 then [0xC0 + c / 0x40, 0x80 + c % 0x40]
  else if c < 0x10000 then [0xE0 + c / 0x1000, 0x80 + c / 0x40 % 0x40, 0x80 + c % 0x40]
  else
    [0xF0 + c / 0x40000, 0x80 + c / 0x1000 % 0x40, 0x80 + c / 0x40 % 0x40, 0x80 + c % 0x40]

/-- Where a range has to be split so that both parts are closer to one sequence of byte ranges: at
the surrogates, where the length of the encoding changes, and where a byte before the last changes
while the bytes after it do not run through all their values. Yields the end of the first part and
the start of the second. -/
def splitPoint? (r : Range) : Option (Nat × Nat) :=
  if r.1 < 0xE000 && 0xD7FF < r.2 then some (0xD7FF, 0xE000)
  else
    match [0x7F, 0x7FF, 0xFFFF].find? fun m => r.1 ≤ m && m < r.2 with
    | some m => some (m, m + 1)
    | none =>
      if r.2 ≤ 0x7F then none
      else
        [0x40, 0x1000, 0x40000].findSome? fun block =>
          if r.1 / block == r.2 / block then none
          else if r.1 % block != 0 then
            let stop := r.1 / block * block + block - 1
            some (stop, stop + 1)
          else if r.2 % block != block - 1 then
            let start := r.2 / block * block
            some (start - 1, start)
          else none

/-- The sequences of byte ranges of a range of code points, in rising order. Each split settles one
of the bytes at one end, so that `fuel` need not be large. -/
def byteSequencesOf : (fuel : Nat) → Range → List (List Range)
  | 0, _ => []
  | fuel + 1, r =>
    if r.2 < r.1 then []
    else
      match splitPoint? r with
      | some (stop, start) =>
        byteSequencesOf fuel (r.1, stop) ++ byteSequencesOf fuel (start, r.2)
      | none => [(encodePoint r.1).zip (encodePoint r.2)]

/-- The sequences of byte ranges of several ranges of code points. -/
def byteSequences (ranges : List Range) : List (List Range) := ranges.flatMap (byteSequencesOf 32)

/-- States of an automaton by their transitions, with the number of states and of transitions. -/
structure Automaton where
  states : Std.HashMap (List (Range × Nat)) Nat
  transitions : Nat

/-- Adds a state, unless there is one with the same transitions. Yields its number. -/
def Automaton.add (a : Automaton) (transitions : List (Range × Nat)) : Nat × Automaton :=
  match a.states[transitions]? with
  | some id => (id, a)
  | none =>
    let id := a.states.size + 1
    (id, ⟨a.states.insert transitions id, a.transitions + transitions.length⟩)

/-- Groups sequences that follow each other and begin with the same range. -/
def groupByHead : List (List Range) → List (Range × List (List Range))
  | [] => []
  | [] :: rest => groupByHead rest
  | (r :: tail) :: rest =>
    match groupByHead rest with
    | (s, tails) :: groups =>
      if r == s then (r, tail :: tails) :: groups else (r, [tail]) :: (s, tails) :: groups
    | [] => [(r, [tail])]

/-- Adds the states that read sequences of at most `length` ranges. The state 0 is the end. -/
def Automaton.addSequences : (length : Nat) → List (List Range) → Automaton → Nat × Automaton
  | 0, _, a => (0, a)
  | length + 1, sequences, a =>
    if sequences.all List.isEmpty then (0, a)
    else
      let (transitions, a) := (groupByHead sequences).foldl
        (fun (done, a) (r, tails) =>
          let (id, a) := Automaton.addSequences length tails a
          ((r, id) :: done, a))
        ([], a)
      a.add transitions.reverse

/-- The number of states, the end left out, and of transitions of the automaton that reads the
sequences. -/
def sharedSuffixes (sequences : List (List Range)) : Nat × Nat :=
  let (_, a) := Automaton.addSequences 4 sequences ⟨∅, 0⟩
  (a.states.size, a.transitions)

/-- The number of different beginnings of the sequences, without the empty one. -/
def countBeginnings : (length : Nat) → List (List Range) → Nat
  | 0, _ => 0
  | length + 1, sequences =>
    ((groupByHead sequences).map fun (_, tails) => 1 + countBeginnings length tails).sum

end Fieldwise
