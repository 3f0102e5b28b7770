import Fieldwise.Text.Utf8

/-!
# The loop over the bytes of a value

The loop of `replaceAll` as it goes about a value that is stored in UTF-8: `Loop.pass` is one pass of it.
Places are offsets in bytes, slices are taken between offsets, and a pass in which one of them cannot be
taken ends the loop without a result. What finds the matches is left open.
-/

namespace Fieldwise.Template.Loop

/-- A match as the loop sees it: the offsets where it begins and ends, and what the template makes of it. -/
structure Hit (ε : Type) where
  start : Nat
  stop : Nat
  replacement : Except ε (List UInt8)

/-- What has been written, the offset up to which the value has been dealt with, and the offset from which
the next match is looked for. -/
structure State where
  out : List UInt8
  lastEnd : Nat
  searchAt : Nat

/-- What a pass comes to: another one after a match has been expanded, a match that cannot be expanded,
the end of the loop, or a slice that cannot be taken. -/
inductive Pass (ε : Type) where
  | again (hit : Hit ε) (next : State)
  | failed (hit : Hit ε) (cause : ε)
  | finished (out : List UInt8)
  | outOfBounds

variable {ε : Type}

/-- The end of the loop, where the rest of the value is written. -/
def finish (value : List UInt8) (s : State) : Pass ε :=
  match Utf8.slice? value s.lastEnd value.length with
  | some rest => .finished (s.out ++ rest)
  | none => .outOfBounds

/-- The offset from which the search goes on after a match: its end, or, if it is empty, one character
further on, and one byte further on where there is no other character. -/
def resume? (value : List UInt8) (hit : Hit ε) : Option Nat :=
  if hit.start = hit.stop then
    (Utf8.slice? value hit.stop value.length).map fun rest =>
      match Utf8.head? rest with
      | some c => hit.stop + Utf8.width c
      | none => hit.stop + 1
  else some hit.stop

/-- One pass of the loop. -/
def pass (find? : Nat → Option (Hit ε)) (value : List UInt8) (s : State) : Pass ε :=
  if s.searchAt ≤ value.length then
    match find? s.searchAt with
    | none => finish value s
    | some hit =>
      match Utf8.slice? value s.lastEnd hit.start with
      | none => .outOfBounds
      | some between =>
        match hit.replacement with
        | .error cause => .failed hit cause
        | .ok replacement =>
          match resume? value hit with
          | none => .outOfBounds
          | some searchAt => .again hit ⟨s.out ++ between ++ replacement, hit.stop, searchAt⟩
  else finish value s

end Fieldwise.Template.Loop
