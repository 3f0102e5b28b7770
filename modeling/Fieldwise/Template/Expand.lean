import Fieldwise.Pattern.Basic
import Fieldwise.Template.Token

/-!
# Replacing matches

`replaceAll` looks for the matches of a pattern from left to right, none of them overlapping, replaces
each by what the template makes of it and keeps the text between them.
-/

namespace Fieldwise

namespace Pattern

/-- The place from which the search goes on after a match: its end, or one character later if the
match is empty. -/
def Match.resume (m : Match) : Nat := if m.start = m.stop then m.stop + 1 else m.stop

/-- The groups that a template may refer to. -/
def groups (p : Pattern) : Template.Groups := ⟨p.groupCount, p.names⟩

end Pattern

namespace Template

open Pattern (Match)

/-- The characters from one place of a text up to another. -/
def slice (text : Array Char) (start stop : Nat) : List Char := (text.extract start stop).toList

/-- What a group has matched. A group that took no part in the match stands for nothing. -/
def groupText (text : Array Char) (m : Match) (index : Nat) : List Char :=
  match m.group? index with
  | some (start, stop) => slice text start stop
  | none => []

/-- The text that a token stands for. -/
def Token.expand (text : Array Char) (m : Match) : Token → List Char
  | .literal c => [c]
  | .group index => groupText text m index

/-- What a template makes of a match. -/
def expand (groups : Groups) (template : List Char) (text : Array Char) (m : Match) :
    Except Error (List Char) :=
  (tokens groups template).map fun ts => ts.flatMap (Token.expand text m)

/-- Whether a template can be expanded, whatever the match. -/
def validate (groups : Groups) (template : String) : Except Error Unit :=
  (tokens groups template.toList).map fun _ => ()

/-- Goes through a template once and writes what it stands for behind `done`. A reference is written as what
its group has matched, or as nothing where there is no match to take it from. -/
def expandInto (groups : Groups) (captures : Option (Array Char × Match)) (done template : List Char) :
    Except Error (List Char) :=
  match template with
  | [] => .ok done
  | c :: cs =>
    if c = '\\' then
      match cs with
      | [] => .error .danglingEscape
      | escaped :: rest => expandInto groups captures (done ++ [escaped]) rest
    else if c = '$' then
      match _h : readReference groups cs with
      | .error e => .error e
      | .ok (index, rest) =>
        expandInto groups captures (done ++ captures.elim [] fun (text, m) => groupText text m index) rest
    else expandInto groups captures (done ++ [c]) cs
  termination_by template.length
  decreasing_by
  · simp only [List.length_cons]; omega
  · have := length_readReference _h
    simp only [List.length_cons]; omega
  · simp only [List.length_cons]; omega

/-- Replaces the matches that are found from the place `searchAt` on. What comes before `lastEnd` has
been dealt with, and `done` is what has come of it. -/
def replaceFrom (p : Pattern) (template : List Char) (text : Array Char) (done : List Char)
    (lastEnd searchAt : Nat) : Except Error (List Char) :=
  if searchAt ≤ text.size then
    match _h : p.find? text searchAt with
    | none => .ok (done ++ slice text lastEnd text.size)
    | some m => do
      let replacement ← expand p.groups template text m
      replaceFrom p template text (done ++ slice text lastEnd m.start ++ replacement) m.stop m.resume
  else .ok (done ++ slice text lastEnd text.size)
  termination_by text.size + 1 - searchAt
  decreasing_by
    have := Pattern.find?_bounds _h
    unfold Pattern.Match.resume
    split <;> omega

end Template

/-- Replaces every match of the pattern in a value by what the template makes of it. The template
counts only where there is a match. -/
def replaceAll (p : Pattern) (template value : String) : Except Template.Error String :=
  (Template.replaceFrom p template.toList value.toList.toArray [] 0 0).map String.ofList

end Fieldwise
